import Weave.Instance
import Weave.Json.Shape
import Weave.Proofs.Fallible
import Weave.Proofs.Json.Printed

/-!
# Values as they are kept

What is kept of any value that was read: it is nested no deeper than the reader goes,
and the members of its objects stand in the order of their keys, none twice. Reading
leaves nothing else, whatever was in the text, and of the draft of such a value
nothing is lost.
-/
namespace Weave.Json

def IsScalar : Json → Prop
  | arr _ => False
  | obj _ => False
  | _ => True

/-- The members stand in the order of their keys, and no key is there twice. -/
def Sorted (members : List (Text × Json)) : Prop :=
  members.Pairwise fun a b => a.1 < b.1

/-- What a reader keeps that may still enter so many containers. -/
inductive Stored : Nat → Json → Prop
  | scalar {depth : Nat} {j : Json} : IsScalar j → Stored depth j
  | arr {depth : Nat} {items : List Json} :
      (∀ j ∈ items, Stored depth j) → Stored (depth + 1) (arr items)
  | obj {depth : Nat} {members : List (Text × Json)} :
      Sorted members → (∀ m ∈ members, Stored depth m.2) → Stored (depth + 1) (obj members)

theorem draft_scalar {j : Json} (h : IsScalar j) : j.draft = .leaf (.sound j) := by
  cases j with
  | arr items => exact h.elim
  | obj members => exact h.elim
  | _ => rfl

theorem lt_of_not_lt {a b : Text} (hn : a ≠ b) (h : ¬a < b) : b < a := by
  rcases List.le_iff_lt_or_eq.1 (List.not_lt.1 h) with h | h
  · exact h
  · exact absurd h.symm hn

theorem setMember_last {members : List (Text × Json)} {key : Text} (value : Json)
    (h : ∀ m ∈ members, m.1 < key) : setMember key value members = members ++ [(key, value)] := by
  induction members with
  | nil => rfl
  | cons m members ih =>
      have hm := h m (by simp)
      have hne : key ≠ m.1 := by
        rintro rfl
        exact List.lt_irrefl _ hm
      rw [setMember, if_neg hne, if_neg (List.lt_asymm hm), ih fun x hx => h x (by simp [hx])]
      rfl

theorem mem_of_mem_setMember {members : List (Text × Json)} {key : Text} {value : Json}
    {m : Text × Json} (h : m ∈ setMember key value members) : m = (key, value) ∨ m ∈ members := by
  induction members with
  | nil => simpa [setMember] using h
  | cons x members ih =>
      rw [setMember] at h
      split at h
      · grind
      · split at h
        · grind
        · grind

theorem sorted_setMember {members : List (Text × Json)} (h : Sorted members) (key : Text)
    (value : Json) : Sorted (setMember key value members) := by
  induction members with
  | nil => simp [Sorted, setMember]
  | cons m members ih =>
      obtain ⟨hm, hs⟩ := List.pairwise_cons.1 h
      rw [setMember]
      split
      · rename_i hk
        exact List.pairwise_cons.2 ⟨fun x hx => hk ▸ hm x hx, hs⟩
      · rename_i hk
        split
        · rename_i hlt
          refine List.pairwise_cons.2 ⟨fun x hx => ?_, h⟩
          rcases List.mem_cons.1 hx with rfl | hx
          · exact hlt
          · exact List.lt_trans hlt (hm x hx)
        · rename_i hlt
          refine List.pairwise_cons.2 ⟨fun x hx => ?_, ih hs⟩
          rcases mem_of_mem_setMember hx with rfl | hx
          · exact lt_of_not_lt hk hlt
          · exact hm x hx

namespace Draft

theorem jsonItems_draftItems {depth : Nat} {items : List Json}
    (h : ∀ j ∈ items, (draft j).json depth = .ok j) :
    jsonItems depth (draftItems items) = .ok items := by
  induction items with
  | nil => rfl
  | cons item items ih =>
      rw [draftItems, jsonItems, h item (by simp), ih fun j hj => h j (by simp [hj])]
      rfl

/-- Members that come in order are set one behind the other. -/
theorem jsonMembers_draftMembers {depth : Nat} (done : List (Text × Json))
    {members : List (Text × Json)} (hs : Sorted (done ++ members))
    (h : ∀ m ∈ members, (draft m.2).json depth = .ok m.2) :
    jsonMembers depth (draftMembers members) done = .ok (done ++ members) := by
  induction members generalizing done with
  | nil => simp [draftMembers, jsonMembers]
  | cons m members ih =>
      have hlast : ∀ x ∈ done, x.1 < m.1 := fun x hx =>
        (List.pairwise_append.1 hs).2.2 x hx m (by simp)
      have hset := setMember_last m.2 hlast
      have hs' : Sorted ((done ++ [m]) ++ members) := by simpa using hs
      have ih := ih (done ++ [m]) hs' fun x hx => h x (by simp [hx])
      rw [List.append_assoc] at ih
      rw [draftMembers, jsonMembers, h m (by simp)]
      change jsonMembers depth (draftMembers members) (setMember m.1 m.2 done) = _
      rw [hset]
      exact ih

/-- Of the draft of a value that is kept nothing is lost. -/
theorem json_draft {depth : Nat} {j : Json} (h : Stored depth j) :
    (draft j).json depth = .ok j := by
  induction h with
  | @scalar depth j hj => rw [draft_scalar hj, json]; rfl
  | arr _ ih =>
      rw [draft, json, jsonItems_draftItems ih]
      rfl
  | obj hs _ ih =>
      rw [draft, json, jsonMembers_draftMembers [] hs ih]
      rfl

/-- Its leaves are scalars. -/
inductive Plain : Draft → Prop
  | leaf {l : Leaf Json} : (∀ j, l.value = .ok j → IsScalar j) → Plain (leaf l)
  | arr {items : List Draft} {stop : Option Fault} : (∀ d ∈ items, Plain d) → Plain (arr items stop)
  | obj {members : List (Leaf Text × Draft)} {stop : Option Fault} :
      (∀ m ∈ members, Plain m.2) → Plain (obj members stop)

theorem exists_of_jsonItems {depth : Nat} {items : List Draft} {js : List Json}
    (h : jsonItems depth items = .ok js) : ∀ j ∈ js, ∃ d ∈ items, d.json depth = .ok j := by
  induction items generalizing js with
  | nil =>
      obtain rfl : [] = js := Except.ok.inj h
      simp
  | cons item items ih =>
      rw [jsonItems] at h
      obtain ⟨j, hj, h⟩ := bind_eq_ok.1 h
      obtain ⟨rest, hrest, h⟩ := bind_eq_ok.1 h
      obtain rfl : j :: rest = js := Except.ok.inj h
      intro x hx
      rcases List.mem_cons.1 hx with rfl | hx
      · exact ⟨item, by simp, hj⟩
      · obtain ⟨d, hd, he⟩ := ih hrest x hx
        exact ⟨d, by simp [hd], he⟩

/-- Members are kept in order, and each kept value was read of one of them. -/
theorem exists_of_jsonMembers {depth : Nat} {members : List (Leaf Text × Draft)}
    {done ms : List (Text × Json)} (h : jsonMembers depth members done = .ok ms)
    (hs : Sorted done) :
    Sorted ms ∧ ∀ m ∈ ms, m ∈ done ∨ ∃ d ∈ members, d.2.json depth = .ok m.2 := by
  induction members generalizing done with
  | nil =>
      obtain rfl : done = ms := Except.ok.inj h
      exact ⟨hs, fun m hm => .inl hm⟩
  | cons member members ih =>
      obtain ⟨key, value⟩ := member
      rw [jsonMembers] at h
      obtain ⟨k, -, h⟩ := bind_eq_ok.1 h
      obtain ⟨v, hv, h⟩ := bind_eq_ok.1 h
      obtain ⟨hms, hfrom⟩ := ih h (sorted_setMember hs k v)
      refine ⟨hms, fun m hm => ?_⟩
      rcases hfrom m hm with hm | ⟨d, hd, he⟩
      · rcases mem_of_mem_setMember hm with rfl | hm
        · exact .inr ⟨(key, value), by simp, hv⟩
        · exact .inl hm
      · exact .inr ⟨d, by simp [hd], he⟩

/-- Whatever a reader keeps of a draft is stored as deep as the reader could go. -/
theorem stored_of_json {d : Draft} (hd : Plain d) {depth : Nat} {j : Json}
    (h : d.json depth = .ok j) : Stored depth j := by
  induction hd generalizing depth j with
  | leaf hl =>
      rw [json] at h
      exact .scalar (hl j h)
  | @arr items stop _ ih =>
      cases depth with
      | zero => simp [json] at h
      | succ depth =>
          rw [json] at h
          obtain ⟨js, hjs, h⟩ := bind_eq_ok.1 h
          cases stop with
          | some f => simp at h
          | none =>
              obtain rfl : Json.arr js = j := Except.ok.inj h
              refine .arr fun x hx => ?_
              obtain ⟨d, hd, he⟩ := exists_of_jsonItems hjs x hx
              exact ih d hd he
  | @obj members stop _ ih =>
      cases depth with
      | zero => simp [json] at h
      | succ depth =>
          rw [json] at h
          obtain ⟨ms, hms, h⟩ := bind_eq_ok.1 h
          cases stop with
          | some f => simp at h
          | none =>
              obtain rfl : Json.obj ms = j := Except.ok.inj h
              obtain ⟨hs, hfrom⟩ := exists_of_jsonMembers hms List.Pairwise.nil
              refine .obj hs fun m hm => ?_
              rcases hfrom m hm with hm | ⟨d, hd, he⟩
              · simp at hm
              · exact ih d hd he

theorem plain_broken (f : Fault) : Plain (broken f) :=
  .leaf fun _ h => nomatch h

theorem plain_leafOf {value : Except Fault Json} (h : ∀ j, value = .ok j → IsScalar j)
    (rest : Except Fault Text) : Plain (leafOf value rest).1 := by
  cases rest <;> exact .leaf h

theorem plain_leafOf_map {α : Type} {f : α → Json} (hf : ∀ a, IsScalar (f a))
    (value : Except Fault α) (rest : Except Fault Text) : Plain (leafOf (value.map f) rest).1 := by
  refine plain_leafOf (fun j hj => ?_) rest
  obtain ⟨a, -, rfl⟩ := map_eq_ok.1 hj
  exact hf a

theorem plain_wordLeaf {value : Json} (h : IsScalar value) (word t : Text) :
    Plain (wordLeaf value word t).1 :=
  plain_leafOf_map (fun _ => h) _ _

theorem isScalar_of_readNumber {t : Text} {j : Json} (h : readNumber t = .ok j) : IsScalar j := by
  rw [readNumber] at h
  split at h
  · rename_i l _ _
    rw [Literal.toJson] at h
    split at h
    · cases h; trivial
    · split at h
      · cases h; trivial
      · cases h
  · cases h
  · cases h

/-- What the readers of one bound lay out. -/
structure LaysOutPlain (fuel : Nat) : Prop where
  value : ∀ t, Plain (read fuel t).1
  item : ∀ t, ∀ d ∈ (readItem fuel t).parts, Plain d
  items : ∀ t, ∀ d ∈ (readItems fuel t).parts, Plain d
  moreItems : ∀ t, ∀ d ∈ (readMoreItems fuel t).parts, Plain d
  member : ∀ t, ∀ m ∈ (readMember fuel t).parts, Plain m.2
  members : ∀ t, ∀ m ∈ (readMembers fuel t).parts, Plain m.2
  moreMembers : ∀ t, ∀ m ∈ (readMoreMembers fuel t).parts, Plain m.2

theorem plain_read_step {fuel : Nat} (h : LaysOutPlain fuel) (t : Text) :
    Plain (read (fuel + 1) t).1 := by
  rw [read]
  split
  · exact plain_broken _
  · exact .arr (h.items _)
  · exact .obj (h.members _)
  · exact plain_leafOf_map (fun _ => by trivial) _ _
  · exact plain_wordLeaf (by trivial) _ _
  · exact plain_wordLeaf (by trivial) _ _
  · exact plain_wordLeaf (by trivial) _ _
  · split
    · exact plain_leafOf (fun j hj => isScalar_of_readNumber hj) _
    · exact plain_broken _

theorem plain_readItem_step {fuel : Nat} (h : LaysOutPlain fuel) (t : Text) :
    ∀ d ∈ (readItem (fuel + 1) t).parts, Plain d := by
  have hv := h.value t
  rcases hr : read fuel t with ⟨item, rest⟩
  rw [hr] at hv
  simp only [readItem, hr]
  split
  · simpa using hv
  · intro d hd
    rcases List.mem_cons.1 hd with rfl | hd
    · exact hv
    · exact h.moreItems _ d hd

theorem plain_readMember_step {fuel : Nat} (h : LaysOutPlain fuel) (t : Text) :
    ∀ m ∈ (readMember (fuel + 1) t).parts, Plain m.2 := by
  simp only [readMember]
  split
  · simpa using plain_broken _
  · split
    · simpa using plain_broken _
    · rename_i rest _
      have hv := h.value rest
      split
      · simpa using hv
      · intro m hm
        rcases List.mem_cons.1 hm with rfl | hm
        · exact hv
        · exact h.moreMembers _ m hm
    · simpa using plain_broken _

theorem laysOutPlain (fuel : Nat) : LaysOutPlain fuel := by
  induction fuel with
  | zero =>
      constructor
      · exact fun t => plain_broken _
      all_goals simp [readItem, readItems, readMoreItems, readMember, readMembers, readMoreMembers,
        Parts.fail]
  | succ fuel ih =>
      refine ⟨plain_read_step ih, plain_readItem_step ih, fun t => ?_, fun t => ?_,
        plain_readMember_step ih, fun t => ?_, fun t => ?_⟩
      · rw [readItems]
        split
        · simp [Parts.fail]
        · simp [Parts.done]
        · exact ih.item _
      · rw [readMoreItems]
        split
        · simp [Parts.fail]
        · simp [Parts.done]
        · exact ih.item _
        · simp [Parts.fail]
      · rw [readMembers]
        split
        · simp [Parts.fail]
        · simp [Parts.done]
        · exact ih.member _
        · simp [Parts.fail]
      · rw [readMoreMembers]
        split
        · simp [Parts.fail]
        · simp [Parts.done]
        · split
          · simp [Parts.fail]
          · exact ih.member _
          · simp [Parts.fail]
        · simp [Parts.fail]

/-- A text is laid out with scalars at its leaves. -/
theorem plain_read (fuel : Nat) (t : Text) : Plain (read fuel t).1 :=
  (laysOutPlain fuel).value t

end Draft

end Weave.Json
