import Weave.Proofs.Json.Scalar

/-!
# Printed values read back

Every value whose numbers are integers has a layout of its own, in which nothing is
broken, and what is printed for the value is laid out so, at any depth and wherever no
number could go on. The bound on the reading is used up more slowly than the text: of
any three steps one takes a character, so a bound of more than three times the length
is never met.

If the integers have at most sixty-four bits, the layout keeps every one of them and is
the draft of the value.
-/
namespace Weave.Json

/-- Every number in the value is an integer of sixty-four bits. -/
inductive Integral : Json → Prop
  | null : Integral null
  | bool (value : Bool) : Integral (bool value)
  | int {value : Int} : Fits value → Integral (int value)
  | str (value : Text) : Integral (str value)
  | arr {items : List Json} : (∀ j ∈ items, Integral j) → Integral (arr items)
  | obj {members : List (Text × Json)} : (∀ m ∈ members, Integral m.2) → Integral (obj members)

section Integral

variable {value : Int} {items : List Json} {members : List (Text × Json)}

@[simp]
theorem integral_null : Integral null := .null

@[simp]
theorem integral_bool (value : Bool) : Integral (bool value) := .bool value

@[simp]
theorem integral_int : Integral (int value) ↔ Fits value :=
  ⟨fun h => by cases h; assumption, .int⟩

@[simp]
theorem integral_str (value : Text) : Integral (str value) := .str value

@[simp]
theorem integral_arr : Integral (arr items) ↔ ∀ j ∈ items, Integral j :=
  ⟨fun h => by cases h; assumption, .arr⟩

@[simp]
theorem integral_obj : Integral (obj members) ↔ ∀ m ∈ members, Integral m.2 :=
  ⟨fun h => by cases h; assumption, .obj⟩

end Integral

/-- A scalar that can be read and passed over. -/
def Leaf.sound {α : Type} (value : α) : Leaf α := ⟨.ok value, none⟩

mutual

/-- The draft of a value in which nothing is broken. -/
def draft : Json → Draft
  | arr items => .arr (draftItems items) none
  | obj members => .obj (draftMembers members) none
  | j => .leaf (.sound j)

def draftItems : List Json → List Draft
  | [] => []
  | item :: rest => item.draft :: draftItems rest

def draftMembers : List (Text × Json) → List (Leaf Text × Draft)
  | [] => []
  | (key, value) :: rest => (.sound key, value.draft) :: draftMembers rest

end

theorem draftItems_eq_map (items : List Json) : draftItems items = items.map draft := by
  induction items with
  | nil => rfl
  | cons item items ih => rw [draftItems, ih, List.map_cons]

theorem draftMembers_eq_map (members : List (Text × Json)) :
    draftMembers members = members.map fun m => (.sound m.1, m.2.draft) := by
  induction members with
  | nil => rfl
  | cons m members ih => rw [draftMembers, ih, List.map_cons]

/-- No number in the value has a fraction. -/
inductive Whole : Json → Prop
  | null : Whole null
  | bool (value : Bool) : Whole (bool value)
  | int (value : Int) : Whole (int value)
  | str (value : Text) : Whole (str value)
  | arr {items : List Json} : (∀ j ∈ items, Whole j) → Whole (arr items)
  | obj {members : List (Text × Json)} : (∀ m ∈ members, Whole m.2) → Whole (obj members)

theorem Integral.whole {j : Json} (h : Integral j) : Whole j := by
  induction h with
  | null => exact .null
  | bool value => exact .bool value
  | int _ => exact .int _
  | str value => exact .str value
  | arr _ ih => exact .arr ih
  | obj _ ih => exact .obj ih

section Whole

variable {items : List Json}

@[simp]
theorem whole_bool (value : Bool) : Whole (bool value) := .bool value

@[simp]
theorem whole_str (value : Text) : Whole (str value) := .str value

@[simp]
theorem whole_nat (n : Nat) : Whole (nat n) := .int n

@[simp]
theorem whole_arr : Whole (arr items) ↔ ∀ j ∈ items, Whole j :=
  ⟨fun h => by cases h; assumption, .arr⟩

@[simp]
theorem whole_texts (ts : List Text) : Whole (texts ts) := by
  simp [texts]

@[simp]
theorem whole_record {members : List (String × Json)} :
    Whole (record members) ↔ ∀ m ∈ members, Whole m.2 := by
  have hobj : ∀ ms, Whole (obj ms) ↔ ∀ m ∈ ms, Whole m.2 := fun ms =>
    ⟨fun h => by cases h; assumption, .obj⟩
  simp only [record, hobj, List.forall_mem_map]

end Whole

mutual

/-- How the text of a value is laid out. An integer of more than sixty-four bits is passed over
like any other, but whoever reads it meets another number or none. -/
def layout : Json → Draft
  | int value => .leaf ⟨(integerLiteral value).toJson, none⟩
  | arr items => .arr (layoutItems items) none
  | obj members => .obj (layoutMembers members) none
  | j => .leaf (.sound j)

def layoutItems : List Json → List Draft
  | [] => []
  | item :: rest => item.layout :: layoutItems rest

def layoutMembers : List (Text × Json) → List (Leaf Text × Draft)
  | [] => []
  | (key, value) :: rest => (.sound key, value.layout) :: layoutMembers rest

end

theorem layoutItems_eq_map (items : List Json) : layoutItems items = items.map layout := by
  induction items with
  | nil => rfl
  | cons item items ih => rw [layoutItems, ih, List.map_cons]

theorem layoutMembers_eq_map (members : List (Text × Json)) :
    layoutMembers members = members.map fun m => (.sound m.1, m.2.layout) := by
  induction members with
  | nil => rfl
  | cons m members ih => rw [layoutMembers, ih, List.map_cons]

theorem layout_int {value : Int} (h : Fits value) :
    layout (int value) = .leaf (.sound (int value)) := by
  rw [layout, toJson_integerLiteral h, Leaf.sound]

/-- No integer of sixty-four bits is lost. -/
theorem layout_eq_draft {j : Json} (h : Integral j) : j.layout = j.draft := by
  induction h with
  | null => rfl
  | bool value => rfl
  | int h => exact layout_int h
  | str value => rfl
  | arr _ ih => rw [layout, draft, layoutItems_eq_map, draftItems_eq_map, List.map_congr_left ih]
  | obj _ ih =>
      rw [layout, draft, layoutMembers_eq_map, draftMembers_eq_map]
      simp only [List.map_congr_left fun m hm => congrArg (Prod.mk (Leaf.sound m.1)) (ih m hm)]

namespace Draft

theorem blockedItem?_layoutItems {items : List Json}
    (h : ∀ j ∈ items, (layout j).blocked? = none) : blockedItem? (layoutItems items) = none := by
  induction items with
  | nil => rfl
  | cons item items ih =>
      rw [layoutItems, blockedItem?, h item (by simp), ih fun j hj => h j (by simp [hj])]
      rfl

theorem blockedMember?_layoutMembers {members : List (Text × Json)}
    (h : ∀ m ∈ members, (layout m.2).blocked? = none) :
    blockedMember? (layoutMembers members) = none := by
  induction members with
  | nil => rfl
  | cons m members ih =>
      rw [layoutMembers, blockedMember?, h m (by simp), ih fun j hj => h j (by simp [hj])]
      rfl

/-- Nothing stops one who passes over the draft of a value. -/
theorem blocked?_layout {j : Json} (h : Whole j) : (layout j).blocked? = none := by
  induction h with
  | null => rfl
  | bool value => rfl
  | int value => rfl
  | str value => rfl
  | arr _ ih => rw [layout, blocked?, blockedItem?_layoutItems ih]; rfl
  | obj _ ih => rw [layout, blocked?, blockedMember?_layoutMembers ih]; rfl

/-- A text that begins with something to be seen. -/
def Visible (t : Text) : Prop :=
  ∃ c rest, t = c :: rest ∧ isSpace c = false

theorem skipSpace_visible {t : Text} (h : Visible t) : skipSpace t = t := by
  obtain ⟨c, rest, rfl, hc⟩ := h
  simp [skipSpace, hc]

theorem skipSpace_indent (depth : Nat) {t : Text} (h : Visible t) :
    skipSpace (indent depth ++ t) = t := by
  have hs : ∀ c ∈ indent depth, isSpace c = true := by
    intro c hc
    rcases List.mem_cons.1 hc with rfl | hc
    · rfl
    · rw [List.eq_of_mem_replicate hc]
      rfl
  rw [skipSpace, List.dropWhile_append_of_pos hs]
  exact skipSpace_visible h

theorem ne_of_leadsNumber {c : Char} (h : LeadsNumber c) :
    ∀ d ∈ ['[', ']', '\x7b', '"', 'n', 't', 'f', ' ', '\n', '\t', '\r'], c ≠ d := by
  rintro d hd rfl
  simp only [List.mem_cons, List.not_mem_nil, or_false] at hd
  rcases hd with rfl | rfl | rfl | rfl | rfl | rfl | rfl | rfl | rfl | rfl | rfl <;>
    exact absurd h (by decide)

theorem isSpace_of_leadsNumber {c : Char} (h : LeadsNumber c) : isSpace c = false := by
  have hne := ne_of_leadsNumber h
  simp [isSpace, hne]

/-- How a printed value begins. -/
theorem exists_printAt {j : Json} (h : Whole j) (depth : Nat) :
    ∃ c rest, j.printAt depth = c :: rest ∧ isSpace c = false ∧ c ≠ ']' := by
  cases h with
  | null => exact ⟨_, _, rfl, rfl, by decide⟩
  | bool value => cases value <;> exact ⟨_, _, rfl, rfl, by decide⟩
  | int value =>
      obtain ⟨c, rest, hp, hc⟩ := exists_toString value
      exact ⟨c, rest, hp, isSpace_of_leadsNumber hc, ne_of_leadsNumber hc _ (by simp)⟩
  | str value => exact ⟨_, _, rfl, rfl, by decide⟩
  | @arr items _ => cases items <;> exact ⟨_, _, rfl, rfl, by decide⟩
  | @obj members _ => cases members <;> exact ⟨_, _, rfl, rfl, by decide⟩

theorem read_leadsNumber (fuel : Nat) {c : Char} (h : LeadsNumber c) (t : Text) :
    read (fuel + 1) (c :: t) = leafOf (readNumber (c :: t)) (skipNumber (c :: t)) := by
  have hs : skipSpace (c :: t) = c :: t := skipSpace_visible ⟨c, t, rfl, isSpace_of_leadsNumber h⟩
  have hne := ne_of_leadsNumber h
  have hc : (decide (c = '-') || c.isDigit) = true := by simpa [LeadsNumber] using h
  simp [read, hs, hne, hc]

theorem read_space (fuel : Nat) {t v : Text} (h : skipSpace t = skipSpace v) :
    read fuel t = read fuel v := by
  cases fuel with
  | zero => rfl
  | succ fuel => simp only [read, h]

theorem readItem_space (fuel : Nat) {t v : Text} (h : skipSpace t = skipSpace v) :
    readItem fuel t = readItem fuel v := by
  cases fuel with
  | zero => rfl
  | succ fuel => simp only [readItem, read_space fuel h]

/-- A printed value is laid out as its draft if the bound is great enough. -/
def ReadsBack (j : Json) : Prop :=
  ∀ depth fuel rest, Stops rest → 3 * (j.printAt depth ++ rest).length ≤ fuel →
    read (fuel + 1) (j.printAt depth ++ rest) = (j.layout, rest)

theorem readsBack_bool (value : Bool) : ReadsBack (bool value) := by
  intro depth fuel rest _ _
  cases value <;> rfl

theorem readsBack_int (value : Int) : ReadsBack (int value) := by
  intro depth fuel rest hs _
  obtain ⟨c, t, hc, hl⟩ := exists_toString value
  obtain ⟨hr, hk⟩ := read_toString value hs
  simp only [printAt, hc, List.cons_append] at hr hk ⊢
  rw [read_leadsNumber fuel hl, hr, hk]
  rfl

theorem readsBack_str (value : Text) : ReadsBack (str value) := by
  intro depth fuel rest _ _
  obtain ⟨hr, hk⟩ := read_escaped value rest
  have hp : printAt depth (str value) ++ rest =
      '"' :: (value.flatMap escapeChar ++ '"' :: rest) := by
    simp [printAt, quote]
  rw [hp]
  change leafOf (Except.map str (readString _)) (skipString _) = _
  rw [hr, hk]
  rfl

/-- What stands behind an item, and behind a member, that is not the last. -/
theorem stops_comma (t : Text) : Stops (',' :: t) := by
  simp [Stops]

theorem stops_indent (depth : Nat) (t : Text) : Stops (indent depth ++ t) := by
  simp [Stops, indent]

theorem stops_printItems (depth : Nat) (items : List Json) (depth' : Nat) (t : Text) :
    Stops (printItems depth items ++ (indent depth' ++ t)) := by
  cases items with
  | nil => exact stops_indent depth' t
  | cons item items => exact stops_comma _

theorem visible_printAt {j : Json} (h : Whole j) (depth : Nat) (t : Text) :
    Visible (j.printAt depth ++ t) := by
  obtain ⟨c, rest, hp, hc, -⟩ := exists_printAt h depth
  exact ⟨c, rest ++ t, by rw [hp]; rfl, hc⟩

theorem skipSpace_indent_printAt {j : Json} (h : Whole j) (depth : Nat) (t : Text) :
    skipSpace (indent depth ++ (j.printAt depth ++ t)) = j.printAt depth ++ t :=
  skipSpace_indent depth (visible_printAt h depth t)

theorem length_indent (depth : Nat) : (indent depth).length = 2 * depth + 1 := by
  simp [indent]

theorem readItem_printed {item : Json} (hi : Whole item) (hr : ReadsBack item) {depth fuel : Nat}
    {rest : Text} (hs : Stops rest) (hf : 3 * (item.printAt depth ++ rest).length < fuel) :
    readItem (fuel + 1) (item.printAt depth ++ rest) =
      .cons item.layout (readMoreItems fuel rest) := by
  obtain ⟨fuel, rfl⟩ := Nat.exists_eq_add_one.2 (Nat.zero_lt_of_lt hf)
  simp only [readItem, hr depth fuel rest hs (by omega), blocked?_layout hi]

theorem readItem_indent {item : Json} (hi : Whole item) (fuel depth : Nat) (rest : Text) :
    readItem fuel (indent depth ++ (item.printAt depth ++ rest)) =
      readItem fuel (item.printAt depth ++ rest) := by
  refine readItem_space fuel ?_
  rw [skipSpace_indent_printAt hi, skipSpace_visible (visible_printAt hi depth rest)]

/-- The items behind the first are laid out up to the end of the array. -/
theorem readMoreItems_printed {items : List Json} (hi : ∀ j ∈ items, Whole j)
    (hr : ∀ j ∈ items, ReadsBack j) {depth depth' fuel : Nat} {rest : Text}
    (hf : 3 * (printItems depth items ++ (indent depth' ++ ']' :: rest)).length ≤ fuel) :
    readMoreItems fuel (printItems depth items ++ (indent depth' ++ ']' :: rest)) =
      ⟨layoutItems items, none, rest⟩ := by
  induction items generalizing fuel with
  | nil =>
      simp only [printItems, List.nil_append, List.length_append, length_indent] at hf
      obtain ⟨fuel, rfl⟩ : ∃ n, fuel = n + 1 := Nat.exists_eq_add_one.2 (by omega)
      have hs : skipSpace (indent depth' ++ ']' :: rest) = ']' :: rest :=
        skipSpace_indent depth' ⟨']', rest, rfl, rfl⟩
      simp only [printItems, List.nil_append, readMoreItems, hs]
      rfl
  | cons item items ih =>
      have hitem := hi item (by simp)
      have hs := stops_printItems depth items depth' (']' :: rest)
      have ih := @ih (fun j hj => hi j (by simp [hj])) (fun j hj => hr j (by simp [hj]))
      simp only [printItems, List.append_assoc, List.cons_append] at hf ⊢
      generalize printItems depth items ++ (indent depth' ++ ']' :: rest) = more at hf hs ih ⊢
      simp only [List.length_cons, List.length_append, length_indent] at hf
      obtain ⟨fuel, rfl⟩ : ∃ n, fuel = n + 2 := ⟨fuel - 2, by omega⟩
      have hlen : 3 * (item.printAt depth ++ more).length < fuel := by
        rw [List.length_append]
        omega
      calc readMoreItems (fuel + 2) (',' :: (indent depth ++ (item.printAt depth ++ more)))
          = readItem (fuel + 1) (indent depth ++ (item.printAt depth ++ more)) := rfl
        _ = .cons item.layout (readMoreItems fuel more) := by
            rw [readItem_indent hitem, readItem_printed hitem (hr item (by simp)) hs hlen]
        _ = ⟨layoutItems (item :: items), none, rest⟩ := by
            rw [ih (by omega)]
            rfl

theorem readItems_printed {item : Json} (hi : Whole item) (fuel depth : Nat) (rest : Text) :
    readItems (fuel + 1) (indent depth ++ (item.printAt depth ++ rest)) =
      readItem fuel (item.printAt depth ++ rest) := by
  obtain ⟨c, t, hc, -, hclose⟩ := exists_printAt hi depth
  rw [readItems, skipSpace_indent_printAt hi, hc]
  simp [hclose]

theorem readsBack_arr {items : List Json} (hi : ∀ j ∈ items, Whole j)
    (hr : ∀ j ∈ items, ReadsBack j) : ReadsBack (.arr items) := by
  intro depth fuel rest _ hf
  cases items with
  | nil =>
      obtain ⟨fuel, rfl⟩ : ∃ n, fuel = n + 1 :=
        Nat.exists_eq_add_one.2 (Nat.lt_of_lt_of_le (by simp [printAt]) hf)
      rfl
  | cons first items =>
      have hfirst := hi first (by simp)
      have hs := stops_printItems (depth + 1) items depth (']' :: rest)
      have hmore := fun fuel => @readMoreItems_printed items (fun j hj => hi j (by simp [hj]))
        (fun j hj => hr j (by simp [hj])) (depth + 1) depth fuel rest
      simp only [printAt, List.append_assoc, List.cons_append, List.nil_append] at hf ⊢
      generalize printItems (depth + 1) items ++ (indent depth ++ ']' :: rest) = more
        at hf hs hmore ⊢
      simp only [List.length_cons, List.length_append, length_indent] at hf
      obtain ⟨fuel, rfl⟩ : ∃ n, fuel = n + 2 := ⟨fuel - 2, by omega⟩
      have hlen : 3 * (first.printAt (depth + 1) ++ more).length < fuel := by
        rw [List.length_append]
        omega
      have hitems : readItems (fuel + 2)
          (indent (depth + 1) ++ (first.printAt (depth + 1) ++ more)) =
            ⟨layoutItems (first :: items), none, rest⟩ := by
        rw [readItems_printed hfirst, readItem_printed hfirst (hr first (by simp)) hs hlen,
          hmore _ (by omega)]
        rfl
      simp only [read, skipSpace_visible ⟨'[', _, rfl, rfl⟩, hitems]
      rfl

theorem keyLeaf_printed (key t : Text) :
    keyLeaf (key.flatMap escapeChar ++ '"' :: t) = (.sound key, t) := by
  obtain ⟨hr, hk⟩ := read_escaped key t
  rw [keyLeaf, hr, hk]
  rfl

/-- A member as it is printed behind its opening quote. -/
def printMember (depth : Nat) (m : Text × Json) : Text :=
  m.1.flatMap escapeChar ++ '"' :: ':' :: ' ' :: m.2.printAt depth

theorem readMember_printed {m : Text × Json} (hi : Whole m.2) (hr : ReadsBack m.2)
    {depth fuel : Nat} {rest : Text} (hs : Stops rest)
    (hf : 3 * (m.2.printAt depth ++ rest).length < fuel) :
    readMember (fuel + 1) (printMember depth m ++ rest) =
      .cons (.sound m.1, m.2.layout) (readMoreMembers fuel rest) := by
  obtain ⟨fuel, rfl⟩ := Nat.exists_eq_add_one.2 (Nat.zero_lt_of_lt hf)
  have hp : printMember depth m ++ rest =
      m.1.flatMap escapeChar ++ '"' :: (':' :: ' ' :: (m.2.printAt depth ++ rest)) := by
    simp [printMember]
  have hspace : skipSpace (' ' :: (m.2.printAt depth ++ rest)) =
      skipSpace (m.2.printAt depth ++ rest) := rfl
  have hread : read (fuel + 1) (' ' :: (m.2.printAt depth ++ rest)) = (m.2.layout, rest) := by
    rw [read_space _ hspace, hr depth fuel rest hs (by omega)]
  have hcolon : skipSpace (':' :: ' ' :: (m.2.printAt depth ++ rest)) =
      ':' :: ' ' :: (m.2.printAt depth ++ rest) := rfl
  rw [hp, readMember, keyLeaf_printed]
  simp only [Leaf.sound, hcolon, hread, blocked?_layout hi]

/-- The members behind the first, one by one. -/
theorem printMembers_cons (depth : Nat) (m : Text × Json) (members : List (Text × Json))
    (t : Text) :
    printMembers depth (m :: members) ++ t =
      ',' :: (indent depth ++
        '"' :: (printMember depth m ++ (printMembers depth members ++ t))) := by
  simp [printMembers, printMember, quote]

theorem stops_printMembers (depth : Nat) (members : List (Text × Json)) (depth' : Nat) (t : Text) :
    Stops (printMembers depth members ++ (indent depth' ++ t)) := by
  cases members with
  | nil => exact stops_indent depth' t
  | cons m members =>
      rw [printMembers_cons]
      exact stops_comma _

theorem length_printMember (depth : Nat) (m : Text × Json) :
    (m.2.printAt depth).length + 3 ≤ (printMember depth m).length := by
  simp only [printMember, List.length_append, List.length_cons]
  omega

/-- The members behind the first are laid out up to the end of the object. -/
theorem readMoreMembers_printed {members : List (Text × Json)} (hi : ∀ m ∈ members, Whole m.2)
    (hr : ∀ m ∈ members, ReadsBack m.2) {depth depth' fuel : Nat} {rest : Text}
    (hf : 3 * (printMembers depth members ++ (indent depth' ++ '\x7d' :: rest)).length ≤ fuel) :
    readMoreMembers fuel (printMembers depth members ++ (indent depth' ++ '\x7d' :: rest)) =
      ⟨layoutMembers members, none, rest⟩ := by
  induction members generalizing fuel with
  | nil =>
      simp only [printMembers, List.nil_append, List.length_append, length_indent] at hf
      obtain ⟨fuel, rfl⟩ : ∃ n, fuel = n + 1 := Nat.exists_eq_add_one.2 (by omega)
      have hs : skipSpace (indent depth' ++ '\x7d' :: rest) = '\x7d' :: rest :=
        skipSpace_indent depth' ⟨'\x7d', rest, rfl, rfl⟩
      simp only [printMembers, List.nil_append, readMoreMembers, hs]
      rfl
  | cons m members ih =>
      have hm := hi m (by simp)
      have hs := stops_printMembers depth members depth' ('\x7d' :: rest)
      have ih := @ih (fun j hj => hi j (by simp [hj])) (fun j hj => hr j (by simp [hj]))
      have hl := length_printMember depth m
      rw [printMembers_cons] at hf ⊢
      generalize printMembers depth members ++ (indent depth' ++ '\x7d' :: rest) = more
        at hf hs ih ⊢
      simp only [List.length_cons, List.length_append, length_indent] at hf
      obtain ⟨fuel, rfl⟩ : ∃ n, fuel = n + 2 := ⟨fuel - 2, by omega⟩
      have hlen : 3 * (m.2.printAt depth ++ more).length < fuel := by
        rw [List.length_append]
        omega
      have hq : skipSpace (indent depth ++ '"' :: (printMember depth m ++ more)) =
          '"' :: (printMember depth m ++ more) := skipSpace_indent depth ⟨'"', _, rfl, rfl⟩
      calc readMoreMembers (fuel + 2)
            (',' :: (indent depth ++ '"' :: (printMember depth m ++ more)))
          = readMember (fuel + 1) (printMember depth m ++ more) := by
            simp only [readMoreMembers, skipSpace_visible ⟨',', _, rfl, rfl⟩, hq]
        _ = .cons (.sound m.1, m.2.layout) (readMoreMembers fuel more) :=
            readMember_printed hm (hr m (by simp)) hs hlen
        _ = ⟨layoutMembers (m :: members), none, rest⟩ := by
            rw [ih (by omega)]
            rfl

theorem readsBack_obj {members : List (Text × Json)} (hi : ∀ m ∈ members, Whole m.2)
    (hr : ∀ m ∈ members, ReadsBack m.2) : ReadsBack (.obj members) := by
  intro depth fuel rest _ hf
  cases members with
  | nil =>
      obtain ⟨fuel, rfl⟩ : ∃ n, fuel = n + 1 :=
        Nat.exists_eq_add_one.2 (Nat.lt_of_lt_of_le (by simp [printAt]) hf)
      rfl
  | cons first members =>
      have hfirst := hi first (by simp)
      have hs := stops_printMembers (depth + 1) members depth ('\x7d' :: rest)
      have hmore := fun fuel => @readMoreMembers_printed members (fun j hj => hi j (by simp [hj]))
        (fun j hj => hr j (by simp [hj])) (depth + 1) depth fuel rest
      have hl := length_printMember (depth + 1) first
      have hp : printAt depth (.obj (first :: members)) ++ rest = '\x7b' :: (indent (depth + 1) ++
          '"' :: (printMember (depth + 1) first ++
            (printMembers (depth + 1) members ++ (indent depth ++ '\x7d' :: rest)))) := by
        simp [printAt, printMember, quote]
      rw [hp] at hf ⊢
      generalize printMembers (depth + 1) members ++ (indent depth ++ '\x7d' :: rest) = more
        at hf hs hmore ⊢
      simp only [List.length_cons, List.length_append, length_indent] at hf
      obtain ⟨fuel, rfl⟩ : ∃ n, fuel = n + 2 := ⟨fuel - 2, by omega⟩
      have hlen : 3 * (first.2.printAt (depth + 1) ++ more).length < fuel := by
        rw [List.length_append]
        omega
      have hq : skipSpace (indent (depth + 1) ++ '"' :: (printMember (depth + 1) first ++ more)) =
          '"' :: (printMember (depth + 1) first ++ more) :=
        skipSpace_indent (depth + 1) ⟨'"', _, rfl, rfl⟩
      have hmembers : readMembers (fuel + 2)
          (indent (depth + 1) ++ '"' :: (printMember (depth + 1) first ++ more)) =
            ⟨layoutMembers (first :: members), none, rest⟩ := by
        simp only [readMembers, hq]
        rw [readMember_printed hfirst (hr first (by simp)) hs hlen, hmore _ (by omega)]
        rfl
      simp only [read, skipSpace_visible ⟨'\x7b', _, rfl, rfl⟩, hmembers]
      rfl

theorem readsBack_of_whole {j : Json} (h : Whole j) : ReadsBack j := by
  induction h with
  | null =>
      intro depth fuel rest _ _
      rfl
  | bool value => exact readsBack_bool value
  | int value => exact readsBack_int value
  | str value => exact readsBack_str value
  | arr h ih => exact readsBack_arr h ih
  | obj h ih => exact readsBack_obj h ih

/-- The text of a value is laid out as a whole, up to where it ends. -/
theorem read_print {j : Json} (h : Whole j) {rest : Text} (hs : Stops rest) :
    read (fuelFor (j.print ++ rest)) (j.print ++ rest) = (j.layout, rest) :=
  readsBack_of_whole h 0 (3 * (j.print ++ rest).length + 2) rest hs (by simp [print])

end Draft

end Weave.Json
