import Mathlib.Data.List.Nodup
import Mathlib.Data.List.TakeWhile
import Weave.CommandLine.Parse
import Weave.Proofs.Conversion.Order

/-!
# Words that are taken as they are meant

A word that joins a value to the long word of a switch is cut at its first equals sign, so
whatever the value is, it is stored as it stands. Such a word leaves nothing pending, and words
for different switches can come in any order. Behind two dashes a word fills the next position,
whatever it looks like; it is stored when the next one is met or at the end.
-/
namespace Weave.CommandLine

open Conversion (exists_perm_map_eq)

/-- A switch and what is given for it. A flag is given nothing. -/
structure Given where
  switch : Switch
  value : Text

namespace Given

/-- The long word of the switch, with the value joined to it unless it is a flag. -/
def word (g : Given) : Text :=
  '-' :: '-' :: (g.switch.long ++ if g.switch.arity = .flag then [] else '=' :: g.value)

def entry (g : Given) : Slot × Text :=
  (g.switch.slot, g.value)

/-- The command has the switch, and the value is one for it. -/
structure Fits (g : Given) (command : CommandName) : Prop where
  known : g.switch ∈ command.switches
  flag : g.switch.arity = .flag → g.value = []
  usable : Reading.usable g.switch.slot g.value = true

end Given

/-- A switch of a command is found by its long word, which can be told from a value that is
joined to it, and it asks for no answer. -/
theorem CommandName.switches_spec (command : CommandName) : ∀ s ∈ command.switches,
    (command.level.switches.find? fun x => x.long = s.long) = some s ∧ s.long ≠ [] ∧
      '=' ∉ s.long ∧ s.slot ≠ .help ∧ s.slot ≠ .version := by
  cases command <;> decide

namespace Reading

section

variable {level : Level} {r s : Reading} {slot : Slot} {text : Text}

theorem has_eq_false (h : slot ∉ r.given.map Prod.fst) : r.has slot = false := by
  have hnone : r.given.lookup slot = none := by
    refine List.lookup_eq_none_iff.2 fun p hp => ?_
    have hne : slot ≠ p.1 := fun he => h (he ▸ List.mem_map_of_mem hp)
    simpa using hne
  rw [has, value?, hnone]
  rfl

/-- What is new and usable is stored behind all that is. -/
theorem store_eq_ok (h : slot ∉ r.given.map Prod.fst) (hu : usable slot text = true) :
    r.store slot text = .ok { r with given := r.given ++ [(slot, text)] } := by
  rw [store, has_eq_false h, if_neg Bool.false_ne_true, if_pos hu]

theorem setFlag_eq_store (hp : r.settle = .ok r) (hh : slot ≠ .help) (hv : slot ≠ .version) :
    r.setFlag level slot = r.store slot [] := by
  rw [setFlag, hp, ok_bind]
  cases slot with
  | help => exact absurd rfl hh
  | version => exact absurd rfl hv
  | _ => rfl

theorem setValue_joined (hp : r.settle = .ok r) (switch : Switch) (text : Text) :
    r.setValue switch (some text) = r.store switch.slot text := by
  rw [setValue, hp, ok_bind]

theorem readWord_dashes {body : Text} (ho : r.onlyPositions = false) (hp : r.pending = .none)
    (hb : body ≠ []) : r.readWord level ('-' :: '-' :: body) = r.readLong level body := by
  obtain ⟨c, rest, rfl⟩ := List.exists_cons_of_ne_nil hb
  simp only [readWord, ho, hp, Bool.false_eq_true, if_false]
  rfl

/-- The long word ends before the first equals sign. -/
theorem takeWhile_long {long : Text} (h : '=' ∉ long) (text : Text) :
    (long ++ '=' :: text).takeWhile (· ≠ '=') = long := by
  rw [List.takeWhile_append_of_pos fun c hc => by simpa using ne_of_mem_of_not_mem hc h]
  simp

theorem readLong_joined {switch : Switch}
    (hf : (level.switches.find? fun x => x.long = switch.long) = some switch)
    (hs : '=' ∉ switch.long) (ha : switch.arity ≠ .flag) (text : Text) :
    r.readLong level (switch.long ++ '=' :: text) = r.setValue switch (some text) := by
  have hdrop : (switch.long ++ '=' :: text).drop (switch.long.length + 1) = text := by
    simp
  have hmem : (switch.long ++ '=' :: text).contains '=' = true := by
    simp
  simp only [readLong, takeWhile_long hs, hf, hdrop, hmem, if_true]
  cases h : switch.arity with
  | flag => exact absurd h ha
  | value => rfl
  | anyValue => rfl

theorem readLong_flag {switch : Switch}
    (hf : (level.switches.find? fun x => x.long = switch.long) = some switch)
    (hs : '=' ∉ switch.long) (ha : switch.arity = .flag) :
    r.readLong level switch.long = r.setFlag level switch.slot := by
  have hlong : switch.long.takeWhile (· ≠ '=') = switch.long :=
    List.takeWhile_eq_self_iff.2 fun c hc => by simpa using ne_of_mem_of_not_mem hc hs
  have hmem : switch.long.contains '=' = false := by simpa using hs
  simp only [readLong, hlong, hf, hmem, ha, Bool.false_eq_true, if_false]

end

section

variable {command : CommandName} {r s : Reading}

/-- A word for a switch that was not given before adds what it gives, and nothing is pending. -/
theorem readWord_word {g : Given} (hg : g.Fits command) (ho : r.onlyPositions = false)
    (hp : r.pending = .none) (hn : g.switch.slot ∉ r.given.map Prod.fst) :
    r.readWord command.level g.word = .ok { r with given := r.given ++ [g.entry] } := by
  obtain ⟨hfind, hlong, hsign, hhelp, hversion⟩ := command.switches_spec g.switch hg.known
  have hsettle : r.settle = .ok r := by rw [settle, hp]
  have hstore := store_eq_ok hn hg.usable
  rw [Given.word, readWord_dashes ho hp (List.append_ne_nil_of_left_ne_nil hlong _)]
  by_cases ha : g.switch.arity = .flag
  · rw [if_pos ha, List.append_nil, readLong_flag hfind hsign ha,
      setFlag_eq_store hsettle hhelp hversion, ← hg.flag ha, hstore]
    rfl
  · rw [if_neg ha, readLong_joined hfind hsign ha, setValue_joined hsettle, hstore]
    rfl

/-- Words for different switches add all that they give. -/
theorem foldlM_words {gs : List Given} (hg : ∀ g ∈ gs, g.Fits command)
    (ho : r.onlyPositions = false) (hp : r.pending = .none)
    (hn : (r.given.map Prod.fst ++ gs.map (·.switch.slot)).Nodup) :
    (gs.map Given.word).foldlM (readWord command.level) r =
      .ok { r with given := r.given ++ gs.map Given.entry } := by
  induction gs generalizing r with
  | nil => simp [pure, Except.pure]
  | cons g gs ih =>
      have hnew : g.switch.slot ∉ r.given.map Prod.fst := fun hm =>
        List.disjoint_of_nodup_append hn hm (.head _)
      have hrest : (gs.map Given.word).foldlM (readWord command.level)
          { r with given := r.given ++ [g.entry] } = _ :=
        ih (fun x hx => hg x (by simp [hx])) ho hp (by simpa [Given.entry] using hn)
      rw [List.map_cons, List.foldlM_cons, readWord_word (hg g (by simp)) ho hp hnew, ok_bind,
        hrest]
      simp

/-- Checking what is pending leaves nothing pending and does not touch the positions. -/
theorem eq_of_settle (h : r.settle = .ok s) :
    s.pending = .none ∧ s.positions = r.positions ∧ s.onlyPositions = r.onlyPositions := by
  rw [settle] at h
  cases hp : r.pending with
  | none =>
      simp only [hp, Except.ok.injEq] at h
      exact ⟨h ▸ hp, by rw [h], by rw [h]⟩
  | awaiting switch => simp [hp] at h
  | value slot text =>
      simp only [hp, store] at h
      split at h
      · cases h
      · split at h
        · obtain rfl := Except.ok.inj h
          exact ⟨rfl, rfl, rfl⟩
        · cases h

/-- Behind two dashes, words fill all positions that are left, one after the other. -/
theorem foldlM_positions {level : Level} {slots : List Slot} {ws : List Text}
    (ho : r.onlyPositions = true) (hs : r.settle = .ok s) (hr : r.positions = slots)
    (hlen : ws.length = slots.length) (hn : (s.given.map Prod.fst ++ slots).Nodup)
    (hu : ∀ p ∈ slots.zip ws, usable p.1 p.2 = true) :
    ws.foldlM (readWord level) r >>= settle =
      .ok { given := s.given ++ slots.zip ws, positions := [], onlyPositions := true } := by
  -- A word stays pending until the next one is read, so the induction is on what checking it
  -- gives and not on the reading itself.
  induction slots generalizing r s ws with
  | nil =>
      obtain rfl := List.length_eq_zero_iff.1 hlen
      obtain ⟨hp, hpos, hop⟩ := eq_of_settle hs
      have hend : s = ⟨s.given, .none, [], true⟩ := by
        rw [← hp, ← hpos.trans hr, ← hop.trans ho]
      rw [List.zip_nil_left, List.append_nil]
      exact hs.trans (congrArg Except.ok hend)
  | cons slot slots ih =>
      obtain ⟨w, ws, rfl⟩ := List.exists_cons_of_length_eq_add_one hlen
      obtain ⟨hp, -, hop⟩ := eq_of_settle hs
      have hread : r.readWord level w =
          .ok { s with pending := .value slot w, positions := slots } := by
        simp only [readWord, ho, if_true, readPosition, hr, hs, ok_bind]
      have hnew : slot ∉ s.given.map Prod.fst := fun hm =>
        List.disjoint_of_nodup_append hn hm (.head _)
      have hsettle : settle { s with pending := .value slot w, positions := slots } =
          .ok { s with given := s.given ++ [(slot, w)], pending := .none, positions := slots } :=
        store_eq_ok hnew (hu (slot, w) (by simp))
      have hrest : ∀ p ∈ slots.zip ws, usable p.1 p.2 = true := fun p h => hu p (by simp [h])
      rw [List.foldlM_cons, hread, ok_bind]
      refine (ih (r := { s with pending := .value slot w, positions := slots }) (hop.trans ho)
        hsettle rfl (by simpa using hlen) (by simpa using hn) hrest).trans ?_
      simp

end

end Reading

/-- Words for different switches, two dashes and a word for each position are stored as they
are. -/
theorem readWords_given {command : CommandName} {gs : List Given} {ws : List Text}
    (hg : ∀ g ∈ gs, g.Fits command) (hlen : ws.length = command.positions.length)
    (hn : (gs.map (·.switch.slot) ++ command.positions).Nodup)
    (hu : ∀ p ∈ command.positions.zip ws, Reading.usable p.1 p.2 = true) :
    readWords command.level (gs.map Given.word ++ ['-', '-'] :: ws) =
      .ok {
        given := gs.map Given.entry ++ command.positions.zip ws
        positions := []
        onlyPositions := true } := by
  have hwords : (gs.map Given.word).foldlM (Reading.readWord command.level)
      { positions := command.positions } =
        .ok { given := gs.map Given.entry, positions := command.positions } :=
    Reading.foldlM_words hg rfl rfl (List.nodup_append.1 hn).1
  have hslots : (gs.map Given.entry).map Prod.fst = gs.map (·.switch.slot) := by
    rw [List.map_map]
    rfl
  change (gs.map Given.word ++ ['-', '-'] :: ws).foldlM (Reading.readWord command.level)
    { positions := command.positions } >>= Reading.settle = _
  rw [List.foldlM_append, hwords, ok_bind, List.foldlM_cons]
  exact Reading.foldlM_positions (s := ⟨gs.map Given.entry, .none, command.positions, true⟩)
    rfl rfl rfl hlen (hslots ▸ hn) hu

/-- What is stored for different slots is found whatever its order. -/
theorem lookup_perm {entries entries' : List (Slot × Text)} (h : entries.Perm entries')
    (hn : (entries.map Prod.fst).Nodup) (slot : Slot) :
    entries.lookup slot = entries'.lookup slot := by
  induction h with
  | nil => rfl
  | cons e h ih =>
      rw [List.lookup_cons, List.lookup_cons, ih (List.nodup_cons.1 hn).2]
  | swap a b l =>
      have hne : b.1 ≠ a.1 := fun he => (List.nodup_cons.1 hn).1 (by simp [he])
      obtain ⟨x, s⟩ := a
      obtain ⟨y, t⟩ := b
      simp only [List.lookup_cons]
      cases hx : slot == x with
      | true =>
          have hy : slot ≠ y := fun hy => hne (hy.symm.trans (eq_of_beq hx))
          rw [beq_false_of_ne hy]
      | false => rfl
  | trans h₁ h₂ ih₁ ih₂ =>
      exact (ih₁ hn).trans (ih₂ ((h₁.map Prod.fst).nodup_iff.1 hn))

/-- In whatever order the switches are given, what is read for each slot is what is given. -/
theorem exists_readWords {command : CommandName} {gs : List Given} {words ws : List Text}
    (hw : words.Perm (gs.map Given.word)) (hg : ∀ g ∈ gs, g.Fits command)
    (hlen : ws.length = command.positions.length)
    (hn : (gs.map (·.switch.slot) ++ command.positions).Nodup)
    (hu : ∀ p ∈ command.positions.zip ws, Reading.usable p.1 p.2 = true) :
    ∃ r, readWords command.level (words ++ ['-', '-'] :: ws) = .ok r ∧
      ∀ slot, r.value? slot = (gs.map Given.entry ++ command.positions.zip ws).lookup slot := by
  obtain ⟨gs', hperm, rfl⟩ := exists_perm_map_eq hw.symm
  have hn' : (gs'.map (·.switch.slot) ++ command.positions).Nodup :=
    ((hperm.map _).append_right _).nodup_iff.2 hn
  refine ⟨_, readWords_given (fun g h => hg g (hperm.mem_iff.1 h)) hlen hn' hu, fun slot => ?_⟩
  refine lookup_perm ((hperm.map _).append_right _) ?_ slot
  rw [List.map_append, List.map_map, List.map_fst_zip hlen.ge]
  exact hn'

end Weave.CommandLine
