import Weave.Proofs.FileTree.Way

/-!
# Writing to a file

Writing gives one file its whole content, under all its names, and changes nothing
else. So the text is what is read there afterwards, by the same path.
-/
namespace Weave.FileTree

/-- Whether two places are one, or two names of one file. -/
def SameFile (t : FileTree) (p q : Place) : Prop :=
  p = q ∨ ∃ e, e.sharing.isSome ∧ t.at? p = some e ∧ t.at? q = some e

/-- What is at a place when bytes are written there. -/
def refilled (t : FileTree) (bytes : ByteArray) : Option Entry → Option Entry
  | none => some (t.newFile bytes)
  | some e =>
    match e.content with
    | .file _ => some { e with content := .file bytes, time := t.now }
    | _ => some e

/-- Whether bytes can be written where this is. -/
def takes (bytes : ByteArray) : Option Entry → Bool
  | none => true
  | some e =>
    match e.content with
    | .file _ => true
    | .device d => (d.refusal? bytes).isNone
    | _ => false

/-- What writing to the file at a place makes of a tree. -/
structure Written (before after : FileTree) (place : Place) (bytes : ByteArray) : Prop where
  here : after.here = before.here
  mask : after.mask = before.mask
  now : after.now = before.now
  refusals : after.refusals = before.refusals
  /-- The file is new or was a file. -/
  was {q : Place} {e : Entry} : before.SameFile q place → before.at? q = some e → e.isFile
  /-- Under all its names it holds the bytes. -/
  holds {q : Place} : before.SameFile q place → ∃ e, after.at? q = some e ∧ e.content = .file bytes
  /-- Whatever is no name of it is as it was. -/
  others {q : Place} : ¬before.SameFile q place → after.at? q = before.at? q

section

variable {t before after : FileTree} {place q : Place} {bytes : ByteArray}

theorem isDirectory_of_isFile {e : Entry} (h : e.isFile) : e.isDirectory = false := by
  cases hc : e.content <;> simp_all [Entry.isFile, Entry.isDirectory]

theorem target?_of_isFile {e : Entry} (h : e.isFile) : e.target? = none := by
  cases hc : e.content <;> simp_all [Entry.isFile, Entry.target?]

theorem isDevice_of_isFile {e : Entry} (h : e.isFile) : e.isDevice = false := by
  cases hc : e.content <;> simp_all [Entry.isFile, Entry.isDevice, Entry.device?]

/-- All names of a file hold the same. -/
theorem SameFile.at?_eq (h : t.SameFile q place) : t.at? q = t.at? place := by
  rcases h with rfl | ⟨e, -, hq, hp⟩
  · rfl
  · rw [hq, hp]

theorem SameFile.eq_of_at? {a b : Entry} (h : t.SameFile q place) (ha : t.at? q = some a)
    (hb : t.at? place = some b) : a = b :=
  Option.some.inj (ha.symm.trans (h.at?_eq.trans hb))

theorem ne_nil_of_at? {e : Entry} (h : t.at? place = some e) (hd : e.isDirectory = false) :
    place ≠ [] := by
  rintro rfl
  obtain rfl : Entry.directory = e := Option.some.inj h
  cases hd

theorem lookup_map {entries : List (Place × Entry)} (f : Entry → Entry) (q : Place) :
    (entries.map fun e => (e.1, f e.2)).lookup q = (entries.lookup q).map f := by
  induction entries with
  | nil => rfl
  | cons e entries ih =>
      rw [List.map_cons, List.lookup_cons, List.lookup_cons, ih]
      split <;> rfl

/-- Every entry in another form. -/
def mapped (t : FileTree) (f : Entry → Entry) : FileTree :=
  { t with entries := t.entries.map fun e => (e.1, f e.2) }

theorem at?_mapped (t : FileTree) (f : Entry → Entry) (hq : q ≠ []) :
    (t.mapped f).at? q = (t.at? q).map f := by
  rw [at?, at?, if_neg hq, if_neg hq]
  exact lookup_map f q

theorem replace_eq {old : Entry} (h : t.at? place = some old) (entry : Entry) :
    t.replace place entry =
      (t.mapped fun e => if isSame e old then entry else e).set place entry := by
  simp only [replace, h, mapped]
  congr 3
  funext e
  split <;> rfl

theorem isSame_iff {a b : Entry} : isSame a b ↔ a.sharing.isSome ∧ a = b := by
  simp [isSame]

/-- The new form is at the place and at every other of the same file. -/
theorem at?_replace {old : Entry} (h : t.at? place = some old) (hp : place ≠ []) (entry : Entry)
    (q : Place) :
    (t.SameFile q place → (t.replace place entry).at? q = some entry) ∧
      (¬t.SameFile q place → (t.replace place entry).at? q = t.at? q) := by
  rw [replace_eq h, at?_set entry q hp]
  by_cases hq : q = place
  · exact ⟨fun _ => if_pos hq, fun hn => absurd (.inl hq) hn⟩
  · rw [if_neg hq]
    by_cases hroot : q = []
    · subst hroot
      refine ⟨?_, fun _ => rfl⟩
      rintro (rfl | ⟨e, he, hat, -⟩)
      · exact absurd rfl hp
      · obtain rfl : Entry.directory = e := Option.some.inj hat
        cases he
    · rw [at?_mapped t _ hroot]
      constructor
      · rintro (rfl | ⟨e, he, hat, hold⟩)
        · exact absurd rfl hq
        · obtain rfl : old = e := Option.some.inj (h.symm.trans hold)
          rw [hat, Option.map_some, if_pos (isSame_iff.2 ⟨he, rfl⟩)]
      · intro hn
        cases hat : t.at? q with
        | none => rfl
        | some e =>
            have hs : ¬isSame e old := fun hs => by
              obtain ⟨he, rfl⟩ := isSame_iff.1 hs
              exact hn (.inr ⟨e, he, hat, h⟩)
            rw [Option.map_some, if_neg hs]

theorem sameFile_of_at?_none (h : t.at? place = none) (hq : t.SameFile q place) : q = place := by
  rcases hq with hq | ⟨e, -, -, he⟩
  · exact hq
  · rw [h] at he
    cases he

theorem exists_fill_iff :
    (∃ after, t.fill place false bytes = .ok after) ↔
      t.writeRefusal? place = none ∧ takes bytes (t.at? place) = true := by
  unfold fill
  cases t.writeRefusal? place with
  | some f => simp
  | none =>
      cases hat : t.at? place with
      | none => simp [takes]
      | some e =>
          cases hc : e.content with
          | device d => cases hd : d.refusal? bytes <;> simp [takes, hc, hd]
          | _ => simp [takes, hc]

/-- What a place holds that is no file stays. -/
theorem refilled_eq_self {e : Entry} (h : e.isFile = false) :
    t.refilled bytes (some e) = some e := by
  cases hc : e.content <;> simp_all [refilled, Entry.isFile]

theorem isFile_of_takes {e : Entry} (h : takes bytes (some e) = true) (hd : e.isDevice = false) :
    e.isFile = true := by
  cases hc : e.content <;> simp_all [takes, Entry.isFile, Entry.isDevice, Entry.device?]

/-- Filling a place makes a file there, or gives the one there other bytes, or it gives them to a
device, which keeps nothing. -/
theorem fill_cases (h : t.fill place false bytes = .ok after) :
    (t.at? place = none ∧ place ≠ [] ∧ after = t.set place (t.newFile bytes)) ∨
    (∃ e held, t.at? place = some e ∧ e.content = .file held ∧ place ≠ [] ∧
      after = t.replace place { e with content := .file bytes, time := t.now }) ∨
    (∃ e, t.at? place = some e ∧ e.isDevice = true ∧ after = t) := by
  have hr : t.writeRefusal? place = none := (exists_fill_iff.1 ⟨after, h⟩).1
  cases hat : t.at? place with
  | none =>
      refine .inl ⟨rfl, ?_, ?_⟩
      · rintro rfl
        cases hat
      · simpa [fill, hr, hat, eq_comm] using h
  | some e =>
      cases hc : e.content with
      | file held =>
          refine .inr (.inl ⟨e, held, rfl, hc, ?_, ?_⟩)
          · exact ne_nil_of_at? hat (by simp [Entry.isDirectory, hc])
          · simpa [fill, hr, hat, hc, eq_comm] using h
      | directory => simp [fill, hr, hat, hc] at h
      | link target => simp [fill, hr, hat, hc] at h
      | device d =>
          refine .inr (.inr ⟨e, rfl, by simp [Entry.isDevice, Entry.device?, hc], ?_⟩)
          cases hd : d.refusal? bytes with
          | some f => simp [fill, hr, hat, hc, hd] at h
          | none => simpa [fill, hr, hat, hc, hd, eq_comm] using h

/-- A device stores nothing. -/
theorem eq_of_fill_device {e : Entry} (he : t.at? place = some e) (hd : e.isDevice)
    (h : t.fill place false bytes = .ok after) : after = t := by
  obtain ⟨hat, -⟩ | ⟨d, held, hat, hc, -⟩ | ⟨-, -, -, rfl⟩ := fill_cases h
  · cases hat.symm.trans he
  · obtain rfl := Option.some.inj (hat.symm.trans he)
    simp [Entry.isDevice, Entry.device?, hc] at hd
  · rfl

theorem settings_of_fill (h : t.fill place false bytes = .ok after) :
    after.here = t.here ∧ after.mask = t.mask ∧ after.now = t.now ∧
      after.refusals = t.refusals := by
  obtain ⟨-, -, rfl⟩ | ⟨e, held, -, -, -, rfl⟩ | ⟨-, -, -, rfl⟩ := fill_cases h
  · exact ⟨rfl, rfl, rfl, rfl⟩
  · exact ⟨rfl, rfl, rfl, rfl⟩
  · exact ⟨rfl, rfl, rfl, rfl⟩

/-- Filling a place refills its file under all names, and leaves the others. -/
theorem at?_of_fill (h : t.fill place false bytes = .ok after) (q : Place) :
    (t.SameFile q place → after.at? q = t.refilled bytes (t.at? q)) ∧
      (¬t.SameFile q place → after.at? q = t.at? q) := by
  obtain ⟨hat, hp, rfl⟩ | ⟨e, held, hat, hc, hp, rfl⟩ | ⟨e, hat, hd, rfl⟩ := fill_cases h
  · rw [at?_set _ _ hp]
    constructor
    · intro hq
      obtain rfl := sameFile_of_at?_none hat hq
      rw [if_pos rfl, hat]
      rfl
    · intro hq
      rw [if_neg fun hq' => hq (.inl hq')]
  · obtain ⟨hsame, hother⟩ := at?_replace hat hp { e with content := .file bytes, time := t.now } q
    refine ⟨fun hq => ?_, hother⟩
    rw [hsame hq, hq.at?_eq, hat]
    simp only [refilled, hc]
  · refine ⟨fun hq => ?_, fun _ => rfl⟩
    rw [hq.at?_eq, hat, refilled_eq_self]
    cases hc : e.content <;> simp_all [Entry.isFile, Entry.isDevice, Entry.device?]

/-- Filling a place stores the bytes there, unless a device takes them. -/
theorem written_of_fill (h : t.fill place false bytes = .ok after)
    (hd : ∀ e, t.at? place = some e → e.isDevice = false) : t.Written after place bytes := by
  have hfile : ∀ {q e}, t.SameFile q place → t.at? q = some e → e.isFile = true := by
    intro q e hq he
    have hat := hq.at?_eq.symm.trans he
    exact isFile_of_takes (hat ▸ (exists_fill_iff.1 ⟨after, h⟩).2) (hd e hat)
  obtain ⟨hhere, hmask, hnow, hrefusals⟩ := settings_of_fill h
  refine ⟨hhere, hmask, hnow, hrefusals, hfile, fun {q} hq => ?_, fun {q} => (at?_of_fill h q).2⟩
  rw [(at?_of_fill h q).1 hq]
  cases hat : t.at? q with
  | none => exact ⟨_, rfl, rfl⟩
  | some e =>
      have he := hfile hq hat
      cases hc : e.content with
      | file held =>
          exact ⟨{ e with content := .file bytes, time := t.now }, by simp [refilled, hc], rfl⟩
      | _ => simp [Entry.isFile, hc] at he

/-- Where a file is written, all ways stay. -/
theorem Written.keepsWays (h : before.Written after place bytes) : before.KeepsWays after := by
  refine ⟨h.here, h.refusals, fun {q e} he hdir => ?_, fun q => ?_⟩
  · by_cases hq : before.SameFile q place
    · exact absurd hdir (by simp [isDirectory_of_isFile (h.was hq he)])
    · exact ⟨e, (h.others hq).trans he, hdir⟩
  · by_cases hq : before.SameFile q place
    · obtain ⟨e, he, hc⟩ := h.holds hq
      rw [he, Option.bind_some, Entry.target?, hc]
      cases hb : before.at? q with
      | none => rfl
      | some d => exact (target?_of_isFile (h.was hq hb)).symm
    · rw [h.others hq]

theorem keepsWays_of_fill (h : t.fill place false bytes = .ok after) : t.KeepsWays after := by
  by_cases hd : ∀ e, t.at? place = some e → e.isDevice = false
  · exact (written_of_fill h hd).keepsWays
  · obtain ⟨e, he, hdev⟩ : ∃ e, t.at? place = some e ∧ e.isDevice = true := by simpa using hd
    obtain rfl := eq_of_fill_device he hdev h
    exact .refl _

/-- By a path that led to the place before, the bytes are read afterwards, where nothing keeps
the program from reading. -/
theorem Written.readBytes (h : before.Written after place bytes) {p : Path}
    (hp : before.placeOf p true = .ok q) (hq : before.SameFile q place)
    (hr : before.refusal? q .read = none) : after.readBytes p = .ok bytes := by
  obtain ⟨e, he, hc⟩ := h.holds hq
  refine readBytes_eq_ok.2 ⟨q, e, find_eq_ok.2 ⟨h.keepsWays.placeOf hp, he⟩, ?_, ?_⟩
  · rwa [h.keepsWays.refusal?_eq]
  · rw [Entry.read, hc]

/-- What was found at a place that is no name of the file is found there afterwards. -/
theorem Written.find (h : before.Written after place bytes) {p : Path} {e : Entry}
    (hp : before.find p = .ok (q, e)) (hq : ¬before.SameFile q place) :
    after.find p = .ok (q, e) := by
  obtain ⟨hplace, he⟩ := find_eq_ok.1 hp
  exact find_eq_ok.2 ⟨h.keepsWays.placeOf hplace, (h.others hq).trans he⟩

end

theorem textOfBytes_bytesOfText (text : Text) : textOfBytes (bytesOfText text) = .ok text := by
  have h : String.fromUTF8? (String.ofList text).toUTF8 = some (String.ofList text) :=
    dif_pos (String.ofList text).isValidUTF8
  rw [textOfBytes, bytesOfText, h]
  simp

/-- Whether a path leads to a device, which takes what is written and stores nothing. -/
def leadsToDevice (t : FileTree) (p : Path) : Bool :=
  (t.device? p).isSome

/-- A path leads to a file that has a text as its whole content, and whatever is no name of
that file is as it was. So the text is read by the path, unless the program is kept from it. -/
structure Stores (before after : FileTree) (p : Path) (text : Text) : Prop where
  written : ∃ place, before.placeOf p true = .ok place ∧ after.placeOf p true = .ok place ∧
    before.Written after place (bytesOfText text)
  read : (∀ place, before.placeOf p true = .ok place → before.refusal? place .read = none) →
    after.readText p = .ok text

theorem exists_of_writeText {before after : FileTree} {p : Path} {text : Text}
    (h : before.writeText p text = .ok after) :
    ∃ place, before.placeOf p true = .ok place ∧
      before.fill place false (bytesOfText text) = .ok after := by
  obtain ⟨place, hp, hf⟩ := bind_eq_ok.1 h
  exact ⟨place, placeOf_of_placeToWrite hp, hf⟩

/-- A text that is written is stored, unless a device takes it. -/
theorem stores_of_writeText {before after : FileTree} {p : Path} {text : Text}
    (h : before.writeText p text = .ok after) (hd : before.leadsToDevice p = false) :
    before.Stores after p text := by
  obtain ⟨place, hp, hf⟩ := exists_of_writeText h
  have hw : before.Written after place (bytesOfText text) := by
    refine written_of_fill hf fun e he => ?_
    simpa only [leadsToDevice, device?, find_eq_ok.2 ⟨hp, he⟩, Entry.isDevice] using hd
  refine ⟨⟨place, hp, hw.keepsWays.placeOf hp, hw⟩, fun hr => ?_⟩
  rw [readText, hw.readBytes hp (.inl rfl) (hr place hp), ok_bind, textOfBytes_bytesOfText]

end Weave.FileTree
