import Weave.Notebook.Decode
import Weave.Proofs.Json.Record

/-!
# Notebooks read back

The draft of a notebook's value is read to the notebook itself, if its cells keep only
what a reader of notebooks could have left in them. A notebook of chunks keeps nothing,
and a notebook that was read keeps nothing else, in whatever form its records came.
-/
namespace Weave.Notebook

open Json (Draft Fault Stored Leaf)
open Json.Draft (Plain Reading Yields)

namespace Cell

/-- What a cell keeps of an execution. -/
def kept : Cell → List Json
  | markdown metadata outputs _ => [.obj metadata, .arr outputs]
  | code _ metadata outputs _ => [.obj metadata, .arr outputs]

/-- How many containers may be entered inside the members of a cell. Around them stand
the cell, the list of cells and the notebook. -/
def keptDepth : Nat := Json.maxDepth - 3

/-- The cell keeps only what a reader of notebooks could have left in it. -/
def Storable (c : Cell) : Prop :=
  ∀ j ∈ c.kept, Stored keptDepth j

/-- Every number that the cell keeps is an integer. -/
def Integral (c : Cell) : Prop :=
  ∀ j ∈ c.kept, j.Integral

end Cell

section Integral

@[simp]
theorem integral_record {members : List (String × Json)} :
    (Json.record members).Integral ↔ ∀ m ∈ members, m.2.Integral := by
  simp only [Json.record, Json.integral_obj, List.forall_mem_map]

@[simp]
theorem integral_texts (ts : List Text) : (Json.texts ts).Integral := by
  simp [Json.texts]

@[simp]
theorem integral_nat64 (n : UInt64) : (Json.nat n.toNat).Integral := by
  have h := n.toNat_lt
  exact .int ⟨by omega, by omega⟩

@[simp]
theorem integral_nat32 (n : UInt32) : (Json.nat n.toNat).Integral := by
  have h := n.toNat_lt
  exact .int ⟨by omega, by omega⟩

theorem Cell.integral_toJson {c : Cell} (h : c.Integral) : c.toJson.Integral := by
  cases c with
  | markdown metadata outputs source =>
      simpa [Integral, kept, toJson] using h
  | code executionCount metadata outputs source =>
      cases executionCount <;> simpa [Integral, kept, toJson] using h

theorem integral_toJson {nb : Notebook} (h : ∀ c ∈ nb.cells, c.Integral) : nb.toJson.Integral := by
  have hc : ∀ c ∈ nb.cells, c.toJson.Integral := fun c hc => Cell.integral_toJson (h c hc)
  simpa [toJson, Metadata.toJson, Kernel.toJson, Language.toJson] using hc

end Integral

namespace Cell

theorem source?_texts (ts : List Text) : source? (.texts ts) = some ts := by
  have h : ∀ us : List Text, (us.map Json.str).mapM text? = some us := by
    intro us
    induction us with
    | nil => rfl
    | cons u us ih => simp [text?, ih]
  exact h ts

def countJson : Option UInt64 → Json
  | some n => .nat n.toNat
  | none => .null

theorem executionCount?_countJson (count : Option UInt64) :
    executionCount? (countJson count) = some count := by
  cases count with
  | none => rfl
  | some n =>
      have h : 0 ≤ (n.toNat : Int) ∧ (n.toNat : Int) < 2 ^ 64 :=
        ⟨Int.natCast_nonneg _, Int.ofNat_lt.2 n.toNat_lt⟩
      rw [countJson, Json.nat, executionCount?, if_pos h]
      simp

/-- The members behind the kind are kept as they stand. -/
theorem readMembers_draftMembers {depth : Nat} {members : List (Text × Json)}
    (hk : ∀ m ∈ members, m.1 ≠ kindMember) (hs : ∀ m ∈ members, Stored depth m.2)
    (kind : Option Kind) :
    readMembers depth (Json.draftMembers members) kind = .ok (kind, members) := by
  induction members with
  | nil => rfl
  | cons m members ih =>
      have ih := ih (fun x hx => hk x (by simp [hx])) (fun x hx => hs x (by simp [hx]))
      simp only [Json.draftMembers, readMembers, Leaf.sound, ok_bind, if_neg (hk m (by simp)),
        Json.Draft.json_draft (hs m (by simp)), ih]
      rfl

theorem stored_texts (ts : List Text) : Stored keptDepth (.texts ts) := by
  refine .arr fun j hj => ?_
  obtain ⟨t, -, rfl⟩ := List.mem_map.1 hj
  exact .scalar trivial

/-- The members of a cell behind its kind. -/
def members : Cell → List (Text × Json)
  | markdown metadata outputs source => [
      ("metadata".toList, .obj metadata), ("outputs".toList, .arr outputs),
      ("source".toList, .texts source)]
  | code executionCount metadata outputs source => [
      ("execution_count".toList, countJson executionCount), ("metadata".toList, .obj metadata),
      ("outputs".toList, .arr outputs), ("source".toList, .texts source)]

def kind : Cell → Kind
  | markdown _ _ _ => .markdown
  | code _ _ _ _ => .code

def Kind.word : Kind → Text
  | .markdown => "markdown".toList
  | .code => "code".toList

theorem toJson_eq (c : Cell) : c.toJson = .obj ((kindMember, .str c.kind.word) :: c.members) := by
  cases c with
  | markdown metadata outputs source => rfl
  | code executionCount metadata outputs source => cases executionCount <;> rfl

theorem read_word (k : Kind) : Kind.read (Json.draft (.str k.word)) = .ok k := by
  cases k <;> rfl

theorem ne_kindMember {c : Cell} : ∀ m ∈ c.members, m.1 ≠ kindMember := by
  have h : ∀ name ∈ ["execution_count", "metadata", "outputs", "source"],
      name.toList ≠ kindMember := by decide
  cases c with
  | markdown metadata outputs source =>
      simp only [members, List.mem_cons, List.not_mem_nil, or_false]
      rintro m (rfl | rfl | rfl) <;> exact h _ (by simp)
  | code executionCount metadata outputs source =>
      simp only [members, List.mem_cons, List.not_mem_nil, or_false]
      rintro m (rfl | rfl | rfl | rfl) <;> exact h _ (by simp)

theorem stored_members {c : Cell} (h : c.Storable) : ∀ m ∈ c.members, Stored keptDepth m.2 := by
  cases c with
  | markdown metadata outputs source =>
      simp only [members, List.mem_cons, List.not_mem_nil, or_false]
      rintro m (rfl | rfl | rfl)
      · exact h _ (by simp [kept])
      · exact h _ (by simp [kept])
      · exact stored_texts source
  | code executionCount metadata outputs source =>
      simp only [members, List.mem_cons, List.not_mem_nil, or_false]
      rintro m (rfl | rfl | rfl | rfl)
      · cases executionCount <;> exact .scalar trivial
      · exact h _ (by simp [kept])
      · exact h _ (by simp [kept])
      · exact stored_texts source

theorem readContent_toJson {c : Cell} (h : c.Storable) :
    readContent (keptDepth + 1) c.toJson.draft = .ok (c.kind, .named c.members) := by
  have hread := readMembers_draftMembers ne_kindMember (stored_members h) (some c.kind)
  have hkind : readMembers keptDepth
      ((.sound kindMember, Json.draft (.str c.kind.word)) :: Json.draftMembers c.members) none =
        .ok (some c.kind, c.members) := by
    rw [readMembers]
    simp only [Leaf.sound, ok_bind, if_pos, Option.isSome_none, read_word]
    exact hread
  rw [toJson_eq, Json.draft, Json.draftMembers, readContent, hkind]
  rfl

/-- A member is found if no other has its name. -/
theorem member?_of_mem {members : List (Text × Json)} (hn : (members.map Prod.fst).Nodup)
    {name : String} {value : Json} (h : (name.toList, value) ∈ members) :
    member? name members = some (some value) := by
  suffices members.filter (fun m => m.1 == name.toList) = [(name.toList, value)] by
    rw [member?, this]
  induction members with
  | nil => cases h
  | cons m members ih =>
      obtain ⟨hm, hn⟩ := List.nodup_cons.1 hn
      rcases List.mem_cons.1 h with rfl | h
      · have hrest : members.filter (fun m => m.1 == name.toList) = [] := by
          refine List.filter_eq_nil_iff.2 fun x hx he => hm ?_
          exact List.mem_map.2 ⟨x, hx, eq_of_beq he⟩
        simp [hrest]
      · have hne : m.1 ≠ name.toList := fun he => hm (List.mem_map.2 ⟨_, h, he.symm⟩)
        simp [hne, ih hn h]

theorem nodup_members (c : Cell) : (c.members.map Prod.fst).Nodup := by
  cases c with
  | markdown metadata outputs source =>
      exact (by decide : (["metadata", "outputs", "source"].map String.toList).Nodup)
  | code executionCount metadata outputs source =>
      exact (by decide :
        (["execution_count", "metadata", "outputs", "source"].map String.toList).Nodup)

theorem ofContent?_members (c : Cell) : ofContent? c.kind (.named c.members) = some c := by
  have hn := nodup_members c
  cases c with
  | markdown metadata outputs source =>
      have hm : member? "metadata" (members (markdown metadata outputs source)) = _ :=
        member?_of_mem hn (.head _)
      have ho : member? "outputs" (members (markdown metadata outputs source)) = _ :=
        member?_of_mem hn (.tail _ (.head _))
      have hs : member? "source" (members (markdown metadata outputs source)) = _ :=
        member?_of_mem hn (.tail _ (.tail _ (.head _)))
      simp [kind, ofContent?, hm, ho, hs, markdown?, metadata?, outputs?, source?_texts]
  | code executionCount metadata outputs source =>
      have he : member? "execution_count" (members (code executionCount metadata outputs source)) =
          _ := member?_of_mem hn (.head _)
      have hm : member? "metadata" (members (code executionCount metadata outputs source)) = _ :=
        member?_of_mem hn (.tail _ (.head _))
      have ho : member? "outputs" (members (code executionCount metadata outputs source)) = _ :=
        member?_of_mem hn (.tail _ (.tail _ (.head _)))
      have hs : member? "source" (members (code executionCount metadata outputs source)) = _ :=
        member?_of_mem hn (.tail _ (.tail _ (.tail _ (.head _))))
      simp [kind, ofContent?, he, hm, ho, hs, code?, executionCount?_countJson, metadata?, outputs?,
        source?_texts]

theorem read_toJson {c : Cell} (h : c.Storable) : read (keptDepth + 1) c.toJson.draft = .ok c := by
  rw [read, readContent_toJson h, ok_bind]
  simp only [ofContent?_members]

end Cell

theorem list_toJson {α : Type} {item : Nat → Draft → Except Fault α} {toJson : α → Json}
    {depth : Nat} {xs : List α} (h : ∀ x ∈ xs, item depth (toJson x).draft = .ok x) :
    Draft.list item (depth + 1) (Json.draft (.arr (xs.map toJson))) = .ok xs := by
  rw [Json.draft, Json.draftItems_eq_map, List.map_map]
  exact Draft.list_map h

/-- The reading of a text member. -/
def textReading (name : String) (value : Text) (depth : Nat) : Reading Text depth where
  field := textField name
  draft := Json.draft (.str value)
  value := value
  reads := rfl

theorem Kernel.read_toJson (k : Kernel) (depth : Nat) :
    Kernel.read (depth + 1) k.toJson.draft = .ok k := by
  have hn : (["display_name", "language", "name"].map String.toList).Nodup := by decide
  have h := Draft.record_readings [textReading "display_name" k.displayName depth,
    textReading "language" k.language depth, textReading "name" k.name depth] hn
  exact congrArg (· >>= _) h

theorem Language.read_toJson (l : Language) (depth : Nat) :
    Language.read (depth + 1) l.toJson.draft = .ok l := by
  have hn : (["file_extension", "mimetype", "name", "version"].map String.toList).Nodup := by decide
  have h := Draft.record_readings [textReading "file_extension" l.fileExtension depth,
    textReading "mimetype" l.mimetype depth, textReading "name" l.name depth,
    textReading "version" l.version depth] hn
  exact congrArg (· >>= _) h

theorem Metadata.read_toJson (m : Metadata) (depth : Nat) :
    Metadata.read (depth + 2) m.toJson.draft = .ok m := by
  have hn : (["kernelspec", "language_info"].map String.toList).Nodup := by decide
  let kernel : Reading Part (depth + 1) := {
    field := ⟨"kernelspec".toList, fun depth d => .kernel <$> Kernel.read depth d⟩
    draft := m.kernel.toJson.draft
    value := .kernel m.kernel
    reads := by simp only [m.kernel.read_toJson depth]; rfl }
  let language : Reading Part (depth + 1) := {
    field := ⟨"language_info".toList, fun depth d => .language <$> Language.read depth d⟩
    draft := m.language.toJson.draft
    value := .language m.language
    reads := by simp only [m.language.read_toJson depth]; rfl }
  have h := Draft.record_readings [kernel, language] hn
  exact congrArg (· >>= _) h

theorem readVersion_toJson (n : UInt32) : readVersion (Json.draft (.nat n.toNat)) = .ok n := by
  have h := n.toNat_lt
  have hr : Draft.natBelow (2 ^ 32) (Json.layout (.nat n.toNat)) = .ok n.toNat :=
    Draft.natBelow_layout (by omega) h
  rw [Json.layout_eq_draft (integral_nat32 n)] at hr
  rw [readVersion, hr]
  exact congrArg Except.ok UInt32.ofNat_toNat

theorem ofDraft_toJson {nb : Notebook} (h : ∀ c ∈ nb.cells, c.Storable) :
    ofDraft Json.maxDepth nb.toJson.draft = .ok nb := by
  have hn : (["cells", "metadata", "nbformat", "nbformat_minor"].map String.toList).Nodup := by
    decide
  have hcells := list_toJson fun c (hc : c ∈ nb.cells) => Cell.read_toJson (h c hc)
  let cells : Reading Part (Cell.keptDepth + 2) := {
    field := ⟨"cells".toList, fun depth d => .cells <$> Draft.list Cell.read depth d⟩
    draft := Json.draft (.arr (nb.cells.map Cell.toJson))
    value := .cells nb.cells
    reads := by simp only [hcells]; rfl }
  let metadata : Reading Part (Cell.keptDepth + 2) := {
    field := ⟨"metadata".toList, fun depth d => .metadata <$> Metadata.read depth d⟩
    draft := nb.metadata.toJson.draft
    value := .metadata nb.metadata
    reads := by simp only [nb.metadata.read_toJson Cell.keptDepth]; rfl }
  let version (name : String) (n : UInt32) : Reading Part (Cell.keptDepth + 2) := {
    field := ⟨name.toList, fun _ d => .version <$> readVersion d⟩
    draft := Json.draft (.nat n.toNat)
    value := .version n
    reads := by simp only [readVersion_toJson]; rfl }
  have hr := Draft.record_readings [cells, metadata, version "nbformat" nb.nbformat,
    version "nbformat_minor" nb.nbformatMinor] hn
  exact congrArg (· >>= _) hr

/-- What is read of a printed value depends on its draft alone. -/
theorem decode_printed {j : Json} (h : j.Integral) :
    decode j.print = ofDraft Json.maxDepth j.draft := by
  rw [decode, Draft.decode_layout h.whole, Json.layout_eq_draft h]

/-- The text of a notebook that keeps only what could have been read is read to it. -/
theorem decode_print_of_storable {nb : Notebook} (hs : ∀ c ∈ nb.cells, c.Storable)
    (hi : ∀ c ∈ nb.cells, c.Integral) : decode nb.print = .ok nb :=
  (decode_printed (integral_toJson hi)).trans (ofDraft_toJson hs)

namespace Cell

/-- The values that a reader has set apart. -/
def Content.values : Content → List Json
  | named members => members.map Prod.snd
  | listed items => items

theorem exists_of_readMembers {depth : Nat} {members : List (Leaf Text × Draft)}
    {kind kind' : Option Kind} {ms : List (Text × Json)}
    (h : readMembers depth members kind = .ok (kind', ms)) :
    ∀ m ∈ ms, ∃ d ∈ members, d.2.json depth = .ok m.2 := by
  induction members generalizing kind ms with
  | nil =>
      obtain ⟨rfl, rfl⟩ := Prod.mk.inj (Except.ok.inj h)
      simp
  | cons member members ih =>
      obtain ⟨key, value⟩ := member
      rw [readMembers] at h
      obtain ⟨k, -, h⟩ := bind_eq_ok.1 h
      split at h
      · split at h
        · cases h
        · obtain ⟨kind, -, h⟩ := bind_eq_ok.1 h
          intro m hm
          obtain ⟨d, hd, he⟩ := ih h m hm
          exact ⟨d, by simp [hd], he⟩
      · obtain ⟨v, hv, h⟩ := bind_eq_ok.1 h
        obtain ⟨⟨kind, rest⟩, hrest, h⟩ := bind_eq_ok.1 h
        obtain ⟨rfl, rfl⟩ := Prod.mk.inj (Except.ok.inj h)
        intro m hm
        rcases List.mem_cons.1 hm with rfl | hm
        · exact ⟨(key, value), by simp, hv⟩
        · obtain ⟨d, hd, he⟩ := ih hrest m hm
          exact ⟨d, by simp [hd], he⟩

theorem stored_of_readContent {d : Draft} (hd : Plain d) {depth : Nat} {kind : Kind}
    {content : Content} (h : readContent (depth + 1) d = .ok (kind, content)) :
    ∀ j ∈ content.values, Stored depth j := by
  cases hd with
  | leaf _ => cases h
  | @arr items stop hi =>
      cases items with
      | nil => cases stop <;> cases h
      | cons item items =>
          rw [readContent] at h
          obtain ⟨k, -, h⟩ := bind_eq_ok.1 h
          obtain ⟨js, hjs, h⟩ := bind_eq_ok.1 h
          cases stop with
          | some f => cases h
          | none =>
              obtain ⟨rfl, rfl⟩ := Prod.mk.inj (Except.ok.inj h)
              intro j hj
              obtain ⟨d, hd, he⟩ := Draft.exists_of_jsonItems hjs j hj
              exact Draft.stored_of_json (hi d (by simp [hd])) he
  | @obj members stop hm =>
      rw [readContent] at h
      obtain ⟨⟨k, ms⟩, hms, h⟩ := bind_eq_ok.1 h
      cases stop with
      | some f => cases h
      | none =>
          cases k with
          | none => cases h
          | some k =>
              obtain ⟨rfl, rfl⟩ := Prod.mk.inj (Except.ok.inj h)
              intro j hj
              obtain ⟨m, hm', rfl⟩ := List.mem_map.1 hj
              obtain ⟨d, hd, he⟩ := exists_of_readMembers hms m hm'
              exact Draft.stored_of_json (hm d hd) he

theorem mem_of_member? {name : String} {members : List (Text × Json)} {value : Json}
    (h : member? name members = some (some value)) : value ∈ members.map Prod.snd := by
  have hs : ∀ m ∈ members.filter (fun m => m.1 == name.toList), m ∈ members := fun m hm =>
    (List.mem_filter.1 hm).1
  rw [member?] at h
  split at h
  · cases h
  · rename_i m hm
    obtain rfl := Option.some.inj (Option.some.inj h)
    exact List.mem_map_of_mem (hs m (by simp [hm]))
  · cases h

theorem eq_of_metadata? {j : Json} {members : List (Text × Json)} (h : metadata? j = some members) :
    .obj members = j := by
  cases j <;> cases h
  rfl

theorem eq_of_outputs? {j : Json} {items : List Json} (h : outputs? j = some items) :
    .arr items = j := by
  cases j <;> cases h
  rfl

theorem kept_of_markdown? {metadata outputs source : Json} {c : Cell}
    (h : markdown? metadata outputs source = some c) : c.kept = [metadata, outputs] := by
  obtain ⟨m, hm, h⟩ := Option.bind_eq_some_iff.1 h
  obtain ⟨o, ho, h⟩ := Option.bind_eq_some_iff.1 h
  obtain ⟨s, -, h⟩ := Option.bind_eq_some_iff.1 h
  obtain rfl := Option.some.inj h
  rw [kept, eq_of_metadata? hm, eq_of_outputs? ho]

theorem kept_of_code? {executionCount metadata outputs source : Json} {c : Cell}
    (h : code? executionCount metadata outputs source = some c) : c.kept = [metadata, outputs] := by
  obtain ⟨n, -, h⟩ := Option.bind_eq_some_iff.1 h
  obtain ⟨m, hm, h⟩ := Option.bind_eq_some_iff.1 h
  obtain ⟨o, ho, h⟩ := Option.bind_eq_some_iff.1 h
  obtain ⟨s, -, h⟩ := Option.bind_eq_some_iff.1 h
  obtain rfl := Option.some.inj h
  rw [kept, eq_of_metadata? hm, eq_of_outputs? ho]

/-- A cell keeps nothing but values that were set apart. -/
theorem kept_of_ofContent? {kind : Kind} {content : Content} {c : Cell}
    (h : ofContent? kind content = some c) : ∀ j ∈ c.kept, j ∈ content.values := by
  unfold ofContent? at h
  split at h
  · rw [kept_of_markdown? h]
    simp [Content.values]
  · rw [kept_of_code? h]
    simp [Content.values]
  · cases h
  · simp only [Option.bind_eq_bind, Option.bind_eq_some_iff] at h
    obtain ⟨_, hm, m, rfl, _, ho, o, rfl, _, -, _, -, h⟩ := h
    rw [kept_of_markdown? h]
    simp only [List.mem_cons, List.not_mem_nil, or_false, forall_eq_or_imp, forall_eq]
    exact ⟨mem_of_member? hm, mem_of_member? ho⟩
  · simp only [Option.bind_eq_bind, Option.bind_eq_some_iff] at h
    obtain ⟨_, -, _, hm, m, rfl, _, ho, o, rfl, _, -, _, -, h⟩ := h
    rw [kept_of_code? h]
    simp only [List.mem_cons, List.not_mem_nil, or_false, forall_eq_or_imp, forall_eq]
    exact ⟨mem_of_member? hm, mem_of_member? ho⟩

theorem storable_of_read {d : Draft} (hd : Plain d) {c : Cell}
    (h : read (keptDepth + 1) d = .ok c) : c.Storable := by
  obtain ⟨⟨kind, content⟩, hc, h⟩ := bind_eq_ok.1 h
  have hv := stored_of_readContent hd hc
  intro j hj
  cases ho : ofContent? kind content with
  | none => simp [ho] at h
  | some cell =>
      simp only [ho, Except.ok.injEq] at h
      subst h
      exact hv j (kept_of_ofContent? ho j hj)

end Cell

theorem storable_of_list {d : Draft} (hd : Plain d) {cells : List Cell}
    (h : Draft.list Cell.read (Cell.keptDepth + 2) d = .ok cells) : ∀ c ∈ cells, c.Storable := by
  cases hd with
  | leaf _ => cases h
  | obj _ => cases h
  | @arr items stop hi =>
      obtain ⟨cs, hcs, h⟩ := bind_eq_ok.1 h
      cases stop with
      | some f => cases h
      | none =>
          obtain rfl := Except.ok.inj h
          intro c hc
          obtain ⟨item, hitem, hread⟩ := exists_of_mapM_eq_ok hcs hc
          exact Cell.storable_of_read (hi item hitem) hread

/-- The cells in a field of a notebook keep nothing else. -/
def Part.Storable : Part → Prop
  | cells cs => ∀ c ∈ cs, c.Storable
  | _ => True

theorem yields_fields : Yields fields (Cell.keptDepth + 2) Part.Storable := by
  intro f hf d hd part h
  simp only [fields, List.mem_cons, List.not_mem_nil, or_false] at hf
  rcases hf with rfl | rfl | rfl | rfl <;> obtain ⟨x, hx, rfl⟩ := map_eq_ok.1 h
  · exact storable_of_list hd hx
  all_goals trivial

/-- Of whatever text a notebook was read, its cells keep only what can be read again. -/
theorem storable_of_decode {t : Text} {nb : Notebook} (h : decode t = .ok nb) :
    ∀ c ∈ nb.cells, c.Storable := by
  have hplain := Draft.plain_read (Draft.fuelFor t) t
  simp only [decode, Draft.decode] at h
  split at h
  · cases h
  · rename_i nb' hd
    obtain ⟨parts, hparts, hd⟩ := bind_eq_ok.1 hd
    have hall := Draft.yields_record yields_fields hplain hparts
    split at hd
    · split at h
      · obtain rfl := Except.ok.inj h
        obtain rfl := Except.ok.inj hd
        exact hall _ (.head _)
      · cases h
    · cases hd

/-- The cell of a chunk keeps nothing. -/
theorem kept_ofChunk (c : Chunk) : (Cell.ofChunk c).kept = [.obj [], .arr []] := by
  cases c <;> rfl

theorem storable_ofChunk (c : Chunk) : (Cell.ofChunk c).Storable := by
  rw [Cell.Storable, kept_ofChunk]
  simp only [List.forall_mem_cons, List.not_mem_nil, false_imp_iff, implies_true, and_true]
  exact ⟨.obj .nil (by simp), .arr (by simp)⟩

theorem integral_ofChunk (c : Chunk) : (Cell.ofChunk c).Integral := by
  simp [Cell.Integral, kept_ofChunk]

/-- A notebook of chunks is read back from its text, and of whatever text a notebook was read
whose numbers are integers, its own text is read to it once more. -/
theorem decode_print : (∀ runtime chunks,
      decode (ofChunks runtime chunks).print = .ok (ofChunks runtime chunks)) ∧
    ∀ t nb, decode t = .ok nb → (∀ c ∈ nb.cells, c.Integral) → decode nb.print = .ok nb := by
  constructor
  · intro runtime chunks
    exact decode_print_of_storable (List.forall_mem_map.2 fun c _ => storable_ofChunk c)
      (List.forall_mem_map.2 fun c _ => integral_ofChunk c)
  · intro t nb h hi
    exact decode_print_of_storable (storable_of_decode h) hi

/-- A text in which the kind of the first cell comes last, the second cell and the language are
arrays of their fields, keys stand out of order and twice, and unknown members are there. -/
def disordered : Text := Json.print <| .record [
  ("nbformat", .nat 4),
  ("unknown", .arr []),
  ("cells", .arr [
    .record [
      ("source", .texts ["a\n".toList, "\u2028".toList]),
      ("metadata", .record []),
      ("outputs", .arr [.record [
        ("b", .null), ("a", .int (-2 ^ 63)), ("b", .arr [.int (2 ^ 64 - 1)])]]),
      ("id", .nat 7),
      ("cell_type", .str "code".toList)],
    .arr [.str "markdown".toList, .record [], .arr [], .texts ["\"".toList]]]),
  ("metadata", .arr [
    .record [
      ("name", .str "j-1".toList), ("language", .str "j".toList),
      ("display_name", .str "J".toList)],
    .texts [".j".toList, "text/j".toList, "j".toList, "1".toList]]),
  ("nbformat_minor", .nat 3)]

/-- What is read of it. -/
def ordered : Notebook where
  cells := [
    .code none [] [.record [("a", .int (-2 ^ 63)), ("b", .arr [.int (2 ^ 64 - 1)])]]
      ["a\n".toList, "\u2028".toList],
    .markdown [] [] ["\"".toList]]
  metadata := {
    kernel := ⟨"J".toList, "j".toList, "j-1".toList⟩
    language := ⟨".j".toList, "text/j".toList, "j".toList, "1".toList⟩ }
  nbformat := 4
  nbformatMinor := 3

theorem decode_print_disordered : decode disordered = .ok ordered ∧
    (∀ c ∈ ordered.cells, c.Integral) ∧ decode ordered.print = .ok ordered := by
  have hd : decode disordered = .ok ordered := by
    rw [disordered, decode_printed]
    · rfl
    · simp [Json.nat, Json.Fits]
  have hi : ∀ c ∈ ordered.cells, c.Integral := by
    simp [ordered, Cell.Integral, Cell.kept, Json.Fits]
  exact ⟨hd, hi, decode_print.2 _ _ hd hi⟩

end Weave.Notebook
