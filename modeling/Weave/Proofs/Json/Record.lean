import Weave.Proofs.Json.Stored

/-!
# Records read back

A record whose members stand in an object, one for each field and in the order of the
fields, is read to the values of the fields. Whatever form a record comes in, each of
its values was read by the reader of a field.

One who knows no fields takes the members of an object as they stand, and of a printed
object those are the members it was printed from.
-/
namespace Weave.Json.Draft

variable {α : Type}

/-- A member that the reader of its field accepts. -/
structure Reading (α : Type) (depth : Nat) where
  field : NamedField α
  draft : Draft
  value : α
  reads : field.read depth draft = .ok value

section Forward

variable {depth : Nat}

theorem readField_next (done rest : List (Reading α depth)) (r : Reading α depth)
    (hn : ∀ d ∈ done, d.field.name ≠ r.field.name) :
    readField depth r.field.name r.draft ((done ++ r :: rest).map (·.field))
        (done.map (fun d => some d.value) ++ none :: rest.map fun _ => none) =
      .ok (done.map (fun d => some d.value) ++ some r.value :: rest.map fun _ => none) := by
  induction done with
  | nil => simp [readField, r.reads, bind, Except.bind, pure, Except.pure]
  | cons d done ih =>
      have ih := ih fun x hx => hn x (by simp [hx])
      simp only [List.map_cons, List.cons_append, readField, if_neg (hn d (by simp)), ih, ok_bind]
      rfl

/-- The slots of the fields are filled from the front. -/
theorem readFields_readings (done rest : List (Reading α depth))
    (hn : ((done ++ rest).map (·.field.name)).Nodup) :
    readFields ((done ++ rest).map (·.field)) depth
        (rest.map fun r => (Leaf.sound r.field.name, r.draft))
        (done.map (fun d => some d.value) ++ rest.map fun _ => none) =
      .ok ((done ++ rest).map fun r => some r.value) := by
  induction rest generalizing done with
  | nil => simp [readFields]
  | cons r rest ih =>
      have hr : ∀ d ∈ done, d.field.name ≠ r.field.name := fun d hd =>
        (List.pairwise_append.1 (List.pairwise_map.1 hn)).2.2 d hd r (by simp)
      have ih := ih (done ++ [r]) (by simpa using hn)
      simp only [List.append_assoc, List.cons_append, List.nil_append, List.map_append,
        List.map_cons, List.map_nil] at ih
      have hnext := readField_next done rest r hr
      simp only [List.map_append, List.map_cons] at hnext
      simp only [List.map_append, List.map_cons, readFields, Leaf.sound, ok_bind, hnext]
      exact ih

theorem filled_some (as : List α) : filled (as.map some) = .ok as := by
  simp [filled, mapM_eq_ok]

/-- A record is read back from its members in the order of its fields. -/
theorem record_readings (rs : List (Reading α depth))
    (hn : (rs.map (·.field.name)).Nodup) :
    record (rs.map (·.field)) (depth + 1)
        (.obj (rs.map fun r => (.sound r.field.name, r.draft)) none) =
      .ok (rs.map (·.value)) := by
  have h := readFields_readings [] rs hn
  simp only [List.nil_append, List.map_nil] at h
  have hf := filled_some (rs.map (·.value))
  rw [List.map_map] at hf
  simp only [record, List.map_map, Function.comp_def]
  rw [h]
  exact hf

end Forward

section Backward

variable {fields : List (NamedField α)} {depth : Nat} {P : α → Prop}

/-- Whatever a field accepts has a property. -/
def Yields (fields : List (NamedField α)) (depth : Nat) (P : α → Prop) : Prop :=
  ∀ f ∈ fields, ∀ d, Plain d → ∀ a, f.read depth d = .ok a → P a

theorem yields_readField (h : Yields fields depth P) {key : Text} {value : Draft} (hd : Plain value)
    {slots slots' : List (Option α)} (hs : ∀ a, some a ∈ slots → P a)
    (hr : readField depth key value fields slots = .ok slots') : ∀ a, some a ∈ slots' → P a := by
  fun_induction readField depth key value fields slots generalizing slots' with
  | case1 => cases hr
  | case2 field fields slots _ =>
      obtain ⟨a, ha, hr⟩ := bind_eq_ok.1 hr
      obtain rfl := pure_eq_ok.1 hr
      intro b hb
      rcases List.mem_cons.1 hb with hb | hb
      · exact Option.some.inj hb ▸ h field (by simp) value hd a ha
      · exact hs b (by simp [hb])
  | case3 field fields slot slots _ ih =>
      obtain ⟨rest, hrest, hr⟩ := bind_eq_ok.1 hr
      obtain rfl := pure_eq_ok.1 hr
      intro b hb
      rcases List.mem_cons.1 hb with hb | hb
      · exact hs b (by simp [hb])
      · exact ih (fun f hf => h f (by simp [hf])) (fun a ha => hs a (by simp [ha])) hrest b hb
  | case4 => cases hr
  | case5 =>
      obtain rfl := Except.ok.inj hr
      simp

theorem yields_readFields (h : Yields fields depth P) {members : List (Leaf Text × Draft)}
    (hm : ∀ m ∈ members, Plain m.2) {slots slots' : List (Option α)}
    (hs : ∀ a, some a ∈ slots → P a) (hr : readFields fields depth members slots = .ok slots') :
    ∀ a, some a ∈ slots' → P a := by
  induction members generalizing slots with
  | nil => exact Except.ok.inj hr ▸ hs
  | cons m members ih =>
      obtain ⟨key, value⟩ := m
      rw [readFields] at hr
      obtain ⟨k, -, hr⟩ := bind_eq_ok.1 hr
      obtain ⟨next, hnext, hr⟩ := bind_eq_ok.1 hr
      exact ih (fun m hm' => hm m (by simp [hm']))
        (yields_readField h (hm (key, value) (by simp)) hs hnext) hr

theorem yields_readPositional (h : Yields fields depth P) {items : List Draft}
    {stop : Option Fault} (hi : ∀ d ∈ items, Plain d) {as : List α}
    (hr : readPositional depth fields items stop = .ok as) : ∀ a ∈ as, P a := by
  induction fields generalizing items as with
  | nil =>
      cases items with
      | nil =>
          cases stop with
          | none => obtain rfl := Except.ok.inj hr; simp
          | some f => cases hr
      | cons item items => cases hr
  | cons field fields ih =>
      cases items with
      | nil => cases stop <;> cases hr
      | cons item items =>
          rw [readPositional] at hr
          obtain ⟨a, ha, hr⟩ := bind_eq_ok.1 hr
          obtain ⟨rest, hrest, hr⟩ := bind_eq_ok.1 hr
          obtain rfl := pure_eq_ok.1 hr
          intro b hb
          rcases List.mem_cons.1 hb with rfl | hb
          · exact h field (by simp) item (hi item (by simp)) b ha
          · exact ih (fun f hf => h f (by simp [hf])) (fun d hd => hi d (by simp [hd])) hrest b hb

theorem mem_of_filled {slots : List (Option α)} {as : List α} (h : filled slots = .ok as) :
    ∀ a ∈ as, some a ∈ slots := by
  intro a ha
  obtain ⟨slot, hslot, he⟩ := exists_of_mapM_eq_ok h ha
  cases slot with
  | none => cases he
  | some b => exact Except.ok.inj he ▸ hslot

/-- Every value of a record was read by one of its fields. -/
theorem yields_record (h : Yields fields depth P) {d : Draft} (hd : Plain d) {as : List α}
    (hr : record fields (depth + 1) d = .ok as) : ∀ a ∈ as, P a := by
  cases hd with
  | leaf _ => cases hr
  | arr hi => exact yields_readPositional h hi hr
  | @obj members stop hm =>
      rw [record] at hr
      obtain ⟨slots, hslots, hr⟩ := bind_eq_ok.1 hr
      cases stop with
      | some f => cases hr
      | none =>
          intro a ha
          exact yields_readFields h hm (by simp) hslots a (mem_of_filled hr a ha)

end Backward

section Printed

/-- The members of an object with their names, as they stand in the text. -/
def members : Draft → Except Fault (List (Text × Draft))
  | obj ms none => ms.mapM fun m => do
    let name ← m.1.value
    return (name, m.2)
  | obj _ (some f) => .error f
  | d => .error d.mismatch

/-- The values of an object whose members have just these names, in this order. -/
def object (names : List String) (d : Draft) : Except Fault (List Draft) := do
  let ms ← d.members
  if ms.map Prod.fst = names.map String.toList then return ms.map Prod.snd
  else .error .misshapen

def truth : Draft → Except Fault Bool
  | leaf ⟨.ok (.bool value), _⟩ => .ok value
  | d => .error d.mismatch

/-- What is read of a printed value depends on its layout alone. -/
theorem decode_layout {j : Json} (h : Whole j) (shape : Draft → Except Fault α) :
    decode shape j.print = shape j.layout := by
  have hstops : Stops [] := by simp [Stops]
  have hr := read_print h hstops
  rw [List.append_nil] at hr
  simp only [decode, hr]
  cases shape j.layout <;> rfl

/-- A newline behind the value makes no difference. -/
theorem decode_layout_newline {j : Json} (h : Whole j) (shape : Draft → Except Fault α) :
    decode shape (j.print ++ ['\n']) = shape j.layout := by
  have hstops : Stops ['\n'] := by simp [Stops]
  simp only [decode, read_print h hstops]
  cases shape j.layout <;> rfl

theorem members_layout (ms : List (Text × Json)) :
    members (layout (.obj ms)) = .ok (ms.map fun m => (m.1, m.2.layout)) := by
  rw [layout, members, mapM_eq_ok, layoutMembers_eq_map, List.map_map, List.map_map]
  rfl

theorem members_record (ms : List (String × Json)) :
    members (layout (.record ms)) = .ok (ms.map fun m => (m.1.toList, m.2.layout)) := by
  rw [Json.record, members_layout, List.map_map]
  rfl

theorem object_record (ms : List (String × Json)) :
    object (ms.map Prod.fst) (layout (.record ms)) = .ok (ms.map fun m => m.2.layout) := by
  rw [object, members_record, ok_bind]
  simp only [List.map_map, Function.comp_def, if_true]
  rfl

theorem object_record_of_ne {ms : List (String × Json)} {names : List String}
    (h : ms.map Prod.fst ≠ names) : object names (layout (.record ms)) = .error .misshapen := by
  have hne : ms.map (fun m => m.1.toList) ≠ names.map String.toList := by
    rw [← Function.comp_def String.toList Prod.fst, ← List.map_map]
    exact fun he => h ((List.map_inj_right fun _ _ => String.toList_inj.1).1 he)
  rw [object, members_record, ok_bind]
  simp only [List.map_map, Function.comp_def, if_neg hne]

theorem natBelow_layout {n bound : Nat} (h : n < 2 ^ 64) (hb : n < bound) :
    natBelow bound (Json.nat n).layout = .ok n := by
  have hn : 0 ≤ (n : Int) ∧ (n : Int) < bound := ⟨Int.natCast_nonneg n, Int.ofNat_lt.2 hb⟩
  rw [Json.nat, layout_int ⟨by omega, by omega⟩, Leaf.sound, natBelow, if_pos hn,
    Int.toNat_natCast]

/-- A list is read if each of its items is. -/
theorem list_map {item : Nat → Draft → Except Fault α} {toDraft : α → Draft} {depth : Nat}
    {xs : List α} (h : ∀ x ∈ xs, item depth (toDraft x) = .ok x) :
    list item (depth + 1) (.arr (xs.map toDraft) none) = .ok xs := by
  have hm : (xs.map toDraft).mapM (item depth) = .ok xs := by
    rw [mapM_eq_ok, List.map_map]
    exact List.map_congr_left h
  rw [list, hm]
  rfl

end Printed

end Weave.Json.Draft
