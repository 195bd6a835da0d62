import Weave.FileTree.Update
import Weave.Proofs.Fallible

/-!
# Ways through file trees

A way that leads somewhere in one tree leads there in any other in which its
directories are directories and its links lead where they did. And the place where a
path is written to is the place that it leads to.
-/
namespace Weave.FileTree

/-- Directories of the one tree are directories in the other, both have the same links, and
the program is kept from the same. -/
structure KeepsWays (before after : FileTree) : Prop where
  here : after.here = before.here
  refusals : after.refusals = before.refusals
  directory {q : Place} {e : Entry} : before.at? q = some e → e.isDirectory →
    ∃ d, after.at? q = some d ∧ d.isDirectory
  target (q : Place) : (after.at? q).bind Entry.target? = (before.at? q).bind Entry.target?

section

variable {t before after : FileTree} {through : Bool} {place q : Place} {steps : List Text}

/-- A step can be taken from a directory, where nothing keeps the program from searching it. -/
theorem stepFault?_eq_none {step : Text} :
    t.stepFault? place step = none ↔
      ∃ e, t.at? place = some e ∧ e.isDirectory ∧
        (step = slashStep ∨ t.refusal? place .search = none) := by
  unfold stepFault?
  cases t.at? place with
  | none => simp
  | some e =>
      cases hd : e.isDirectory with
      | false => simp [hd]
      | true => by_cases hs : step = slashStep <;> simp [hd, hs]

/-- A step that says nothing of where to go. -/
def staying (step : Text) : Bool :=
  step = slashStep || step = Path.dot

/-- What a step from a directory comes to that leads somewhere. -/
inductive Stepped (t : FileTree) (through : Bool) (place : Place) (step : Text) (rest : List Text)
    (halt : Halt) : Prop
  | stay : staying step = true → t.advance through place rest = .ok halt →
      Stepped t through place step rest halt
  | up : step = Path.dotDot → t.advance through place.dropLast rest = .ok halt →
      Stepped t through place step rest halt
  | link {target : Path} : staying step = false → step ≠ Path.dotDot →
      byteCount step ≤ maxNameBytes → (t.at? (place ++ [step])).bind Entry.target? = some target →
      halt = (if rest = [] && !through then .arrived (place ++ [step])
        else .turned place target rest) →
      Stepped t through place step rest halt
  | name : staying step = false → step ≠ Path.dotDot → byteCount step ≤ maxNameBytes →
      (t.at? (place ++ [step])).bind Entry.target? = none →
      t.advance through (place ++ [step]) rest = .ok halt →
      Stepped t through place step rest halt

theorem advance_cons_eq_ok {step : Text} {rest : List Text} {halt : Halt} :
    t.advance through place (step :: rest) = .ok halt ↔
      t.stepFault? place step = none ∧ Stepped t through place step rest halt := by
  cases hf : t.stepFault? place step with
  | some f => simp [advance, hf]
  | none =>
      rw [advance_cons hf, ← staying]
      constructor
      · intro h
        refine ⟨rfl, ?_⟩
        cases hstay : staying step with
        | true => exact .stay hstay (by rwa [hstay, if_pos rfl] at h)
        | false =>
            rw [hstay, if_neg Bool.false_ne_true] at h
            by_cases hdots : step = Path.dotDot
            · exact .up hdots (by rwa [if_pos hdots] at h)
            rw [if_neg hdots] at h
            by_cases hlong : maxNameBytes < byteCount step
            · rw [if_pos hlong] at h
              cases h
            rw [if_neg hlong] at h
            cases ht : (t.at? (place ++ [step])).bind Entry.target? with
            | none =>
                simp only [ht] at h
                exact .name hstay hdots (Nat.le_of_not_lt hlong) ht h
            | some target =>
                simp only [ht] at h
                refine .link hstay hdots (Nat.le_of_not_lt hlong) ht ?_
                by_cases hlast : (rest = [] && !through) = true
                · rw [if_pos hlast] at h ⊢
                  exact (Except.ok.inj h).symm
                · rw [if_neg hlast] at h ⊢
                  exact (Except.ok.inj h).symm
      · rintro ⟨-, h⟩
        cases h with
        | stay hs h => rwa [if_pos hs]
        | up hs h =>
            have hstay : ¬staying step = true := hs ▸ by decide
            rwa [if_neg hstay, if_pos hs]
        | link hstay hdots hlong ht hh =>
            rw [hstay, if_neg Bool.false_ne_true, if_neg hdots, if_neg (Nat.not_lt.2 hlong)]
            simp only [ht, hh]
            split <;> rfl
        | name hstay hdots hlong ht h =>
            rw [hstay, if_neg Bool.false_ne_true, if_neg hdots, if_neg (Nat.not_lt.2 hlong)]
            simp only [ht]
            exact h

theorem KeepsWays.refl (t : FileTree) : t.KeepsWays t :=
  ⟨rfl, rfl, fun he hd => ⟨_, he, hd⟩, fun _ => rfl⟩

theorem KeepsWays.refusal?_eq (h : KeepsWays before after) (q : Place) (access : Access) :
    after.refusal? q access = before.refusal? q access := by
  rw [refusal?, h.refusals]
  rfl

theorem KeepsWays.stepFault? (h : KeepsWays before after) {step : Text}
    (hs : before.stepFault? place step = none) : after.stepFault? place step = none := by
  obtain ⟨e, he, hd, hsearch⟩ := stepFault?_eq_none.1 hs
  obtain ⟨d, hat, hdir⟩ := h.directory he hd
  exact stepFault?_eq_none.2 ⟨d, hat, hdir, by rwa [h.refusal?_eq]⟩

theorem KeepsWays.advance (h : KeepsWays before after) {halt : Halt}
    (ha : before.advance through place steps = .ok halt) :
    after.advance through place steps = .ok halt := by
  induction steps generalizing place with
  | nil => exact ha
  | cons step rest ih =>
      obtain ⟨hf, hs⟩ := advance_cons_eq_ok.1 ha
      refine advance_cons_eq_ok.2 ⟨h.stepFault? hf, ?_⟩
      cases hs with
      | stay hs hrest => exact .stay hs (ih hrest)
      | up hs hrest => exact .up hs (ih hrest)
      | link hstay hdots hlong ht hh => exact .link hstay hdots hlong ((h.target _).trans ht) hh
      | name hstay hdots hlong ht hrest =>
          exact .name hstay hdots hlong ((h.target _).trans ht) (ih hrest)

/-- Where a way leads: to its end, or on from a link. -/
inductive Leads (t : FileTree) (through : Bool) : Nat → Place → List Text → Place → Prop
  | arrived {links : Nat} {place q : Place} {steps : List Text} :
      t.advance through place steps = .ok (.arrived q) → Leads t through links place steps q
  | turned {links : Nat} {place dir q : Place} {steps rest : List Text} {target : Path} :
      t.advance through place steps = .ok (.turned dir target rest) →
      Leads t through links (base dir target) (waySteps target ++ rest) q →
      Leads t through (links + 1) place steps q

theorem walk_eq_ok {links : Nat} :
    t.walk through links place steps = .ok q ↔ t.Leads through links place steps q := by
  constructor
  · intro h
    induction links generalizing place steps with
    | zero =>
        rw [walk] at h
        obtain ⟨halt, ha, h⟩ := bind_eq_ok.1 h
        cases halt with
        | arrived place =>
            obtain rfl := pure_eq_ok.1 h
            exact .arrived ha
        | turned dir target rest => cases h
    | succ links ih =>
        rw [walk] at h
        obtain ⟨halt, ha, h⟩ := bind_eq_ok.1 h
        cases halt with
        | arrived place =>
            obtain rfl := pure_eq_ok.1 h
            exact .arrived ha
        | turned dir target rest => exact .turned ha (ih h)
  · intro h
    induction h with
    | @arrived links _ _ _ ha => cases links <;> (rw [walk, ha]; rfl)
    | turned ha _ ih =>
        rw [walk, ha]
        exact ih

/-- If every stretch of a walk goes as before, the walk does. -/
theorem walk_of_advance (h : ∀ {place : Place} {steps : List Text} {halt : Halt},
      before.advance through place steps = .ok halt → after.advance through place steps = .ok halt)
    {links : Nat} (hw : before.walk through links place steps = .ok q) :
    after.walk through links place steps = .ok q := by
  have hleads := walk_eq_ok.1 hw
  clear hw
  refine walk_eq_ok.2 ?_
  induction hleads with
  | arrived ha => exact .arrived (h ha)
  | turned ha _ ih => exact .turned (h ha) ih

theorem KeepsWays.walk (h : KeepsWays before after) {links : Nat}
    (hw : before.walk through links place steps = .ok q) :
    after.walk through links place steps = .ok q :=
  walk_of_advance h.advance hw

theorem KeepsWays.placeOf (h : KeepsWays before after) {p : Path}
    (hp : before.placeOf p through = .ok q) : after.placeOf p through = .ok q := by
  rw [FileTree.placeOf] at hp ⊢
  obtain ⟨_, hc, hp⟩ := bind_eq_ok.1 hp
  rw [hc, ok_bind, start, h.here]
  exact h.walk hp

/-- The steps behind a link on the way to a file that is to be written. -/
def stepsBehind (target : Path) (rest : List Text) : List Text :=
  (if rest = [] then stepsToWrite target else waySteps target) ++ rest

theorem stepsBehind_concat (target : Path) (rest : List Text) (step : Text) :
    stepsBehind target (rest ++ [step]) = waySteps target ++ rest ++ [step] := by
  rw [stepsBehind, if_neg (by simp), List.append_assoc]

/-- Where the way to a file leads that is to be written: it ends at a name. -/
inductive LeadsToFile (t : FileTree) : Nat → Place → List Text → Place → Prop
  | arrived {links : Nat} {place q : Place} {steps : List Text} :
      t.advance true place steps = .ok (.arrived q) → endInName steps →
      LeadsToFile t links place steps q
  | turned {links : Nat} {place dir q : Place} {steps rest : List Text} {target : Path} :
      t.advance true place steps = .ok (.turned dir target rest) →
      LeadsToFile t links (base dir target) (stepsBehind target rest) q →
      LeadsToFile t (links + 1) place steps q

theorem walkToWrite_eq_ok {links : Nat} :
    t.walkToWrite links place steps = .ok q ↔ t.LeadsToFile links place steps q := by
  constructor
  · intro h
    have arrived : ∀ {links place steps r}, t.advance true place steps = .ok (.arrived r) →
        (if endInName steps then (pure r : Except Failure Place) else throw .isDirectory) = .ok q →
        t.LeadsToFile links place steps q := by
      intro links place steps r ha h
      by_cases hname : endInName steps
      · rw [if_pos hname] at h
        obtain rfl := pure_eq_ok.1 h
        exact .arrived ha hname
      · rw [if_neg hname] at h
        cases h
    induction links generalizing place steps with
    | zero =>
        rw [walkToWrite] at h
        obtain ⟨halt, ha, h⟩ := bind_eq_ok.1 h
        cases halt with
        | arrived place => exact arrived ha h
        | turned dir target rest => cases h
    | succ links ih =>
        rw [walkToWrite] at h
        obtain ⟨halt, ha, h⟩ := bind_eq_ok.1 h
        cases halt with
        | arrived place => exact arrived ha h
        | turned dir target rest => exact .turned ha (ih h)
  · intro h
    induction h with
    | @arrived links _ _ _ ha hname =>
        cases links <;> (rw [walkToWrite, ha]; exact if_pos hname)
    | turned ha _ ih =>
        rw [walkToWrite, ha]
        exact ih

theorem KeepsWays.walkToWrite (h : KeepsWays before after) {links : Nat}
    (hw : before.walkToWrite links place steps = .ok q) :
    after.walkToWrite links place steps = .ok q := by
  have hleads := walkToWrite_eq_ok.1 hw
  clear hw
  refine walkToWrite_eq_ok.2 ?_
  induction hleads with
  | arrived ha hname => exact .arrived (h.advance ha) hname
  | turned ha _ ih => exact .turned (h.advance ha) ih

theorem KeepsWays.placeToWrite (h : KeepsWays before after) {p : Path}
    (hp : before.placeToWrite p = .ok q) : after.placeToWrite p = .ok q := by
  rw [FileTree.placeToWrite] at hp ⊢
  obtain ⟨_, hc, hp⟩ := bind_eq_ok.1 hp
  rw [hc, ok_bind, start, h.here]
  exact h.walkToWrite hp

theorem placeOf_eq_ok {p : Path} {through : Bool} :
    t.placeOf p through = .ok q ↔
      checkPath p = .ok () ∧ t.walk through maxLinks (t.start p) (waySteps p) = .ok q := by
  rw [placeOf, bind_eq_ok]
  exact ⟨fun ⟨_, hc, hw⟩ => ⟨hc, hw⟩, fun ⟨hc, hw⟩ => ⟨(), hc, hw⟩⟩

theorem bind_holding_eq_ok {place : Except Failure Place} {e : Entry} :
    place >>= t.holding = .ok (q, e) ↔ place = .ok q ∧ t.at? q = some e := by
  rw [bind_eq_ok]
  constructor
  · rintro ⟨r, hr, h⟩
    unfold holding at h
    split at h
    · obtain ⟨rfl, rfl⟩ := Prod.mk.inj (Except.ok.inj h)
      exact ⟨hr, ‹_›⟩
    · cases h
  · rintro ⟨hq, he⟩
    exact ⟨q, hq, by simp only [holding, he]⟩

theorem find_eq_ok {p : Path} {e : Entry} :
    t.find p = .ok (q, e) ↔ t.placeOf p true = .ok q ∧ t.at? q = some e :=
  bind_holding_eq_ok

theorem findSelf_eq_ok {p : Path} {e : Entry} :
    t.findSelf p = .ok (q, e) ↔ t.placeOf p false = .ok q ∧ t.at? q = some e :=
  bind_holding_eq_ok

/-- What is read by a path is in an entry that the program may read. -/
theorem readBytes_eq_ok {p : Path} {bytes : ByteArray} :
    t.readBytes p = .ok bytes ↔
      ∃ q e, t.find p = .ok (q, e) ∧ t.refusal? q .read = none ∧ e.read = .ok bytes := by
  rw [readBytes, bind_eq_ok]
  constructor
  · rintro ⟨⟨q, e⟩, hf, h⟩
    cases hr : t.refusal? q .read with
    | some f => simp [hr] at h
    | none => exact ⟨q, e, hf, hr, by simpa [hr] using h⟩
  · rintro ⟨q, e, hf, hr, he⟩
    exact ⟨(q, e), hf, by simpa only [hr] using he⟩

theorem holds_of_readText {p : Path} {text : Text} (hr : t.readText p = .ok text) :
    t.holds p = true := by
  obtain ⟨bytes, hb, -⟩ := bind_eq_ok.1 hr
  obtain ⟨found, hf, -⟩ := bind_eq_ok.1 hb
  rw [holds, hf]
  rfl

/-- A link that is met has a name of its own. -/
theorem exists_of_advance_turned {dir : Place} {target : Path} {rest : List Text}
    (h : t.advance through place steps = .ok (.turned dir target rest)) :
    ∃ passed name, steps = passed ++ name :: rest ∧ staying name = false := by
  induction steps generalizing place with
  | nil => cases h
  | cons step steps ih =>
      have further : ∀ {next}, t.advance through next steps = .ok (.turned dir target rest) →
          ∃ passed name, step :: steps = passed ++ name :: rest ∧ staying name = false := by
        intro next hn
        obtain ⟨passed, name, hs, hname⟩ := ih hn
        exact ⟨step :: passed, name, by rw [hs]; rfl, hname⟩
      cases (advance_cons_eq_ok.1 h).2 with
      | stay _ hrest => exact further hrest
      | up _ hrest => exact further hrest
      | link hstay _ _ _ hh =>
          split at hh
          · cases hh
          · obtain ⟨-, -, rfl⟩ := Halt.turned.inj hh
            exact ⟨[], step, rfl, hstay⟩
      | name _ _ _ _ hrest => exact further hrest

/-- No file is named by steps that end in a directory. -/
theorem walkToWrite_dot (links : Nat) (place : Place) (steps : List Text) :
    t.walkToWrite links place (steps ++ [Path.dot]) ≠ .ok q := by
  intro h
  have hleads := walkToWrite_eq_ok.1 h
  clear h
  generalize hall : steps ++ [Path.dot] = all at hleads
  induction hleads generalizing steps with
  | arrived _ hname =>
      rw [← hall] at hname
      simp [endInName] at hname
  | @turned _ _ _ _ _ rest target ha _ ih =>
      -- a link has a name, so the dot at the end is still to come
      obtain ⟨passed, name, hs, hname⟩ := exists_of_advance_turned ha
      have hlast := congrArg List.getLast? (hall.trans hs)
      rcases List.eq_nil_or_concat rest with rfl | ⟨between, last, rfl⟩
      · obtain rfl : Path.dot = name := by simpa using hlast
        cases hname
      · rw [List.concat_eq_append] at hlast ih
        obtain rfl : Path.dot = last := by
          rw [← List.cons_append, ← List.append_assoc, List.getLast?_concat,
            List.getLast?_concat] at hlast
          exact Option.some.inj hlast
        exact ih (waySteps target ++ between) (stepsBehind_concat target between _).symm

/-- The place that is written to is the place where the steps lead. -/
theorem walk_of_walkToWrite {links : Nat} (h : t.walkToWrite links place steps = .ok q) :
    t.walk true links place steps = .ok q := by
  have hleads := walkToWrite_eq_ok.1 h
  clear h
  refine walk_eq_ok.2 ?_
  induction hleads with
  | arrived ha _ => exact .arrived ha
  | @turned _ _ _ _ _ rest target ha hfile ih =>
      have hway : stepsBehind target rest = waySteps target ++ rest := by
        by_cases hrest : rest = []
        · subst hrest
          by_cases hslash : target.getLast? = some '/'
          · rw [stepsBehind, if_pos rfl, stepsToWrite, if_pos hslash, List.append_nil] at hfile
            exact absurd (walkToWrite_eq_ok.2 hfile) (walkToWrite_dot _ _ _)
          · rw [stepsBehind, if_pos rfl, stepsToWrite, if_neg hslash, waySteps, if_neg hslash]
        · rw [stepsBehind, if_neg hrest]
      exact .turned ha (hway ▸ ih)

/-- The place of a file that is to be written is the place that its path leads to. -/
theorem placeOf_of_placeToWrite {p : Path} (h : t.placeToWrite p = .ok q) :
    t.placeOf p true = .ok q := by
  rw [placeToWrite] at h
  obtain ⟨_, hc, h⟩ := bind_eq_ok.1 h
  rw [placeOf, hc, ok_bind]
  by_cases hslash : p.getLast? = some '/'
  · rw [stepsToWrite, if_pos hslash] at h
    exact absurd h (walkToWrite_dot _ _ _)
  · rw [stepsToWrite, if_neg hslash] at h
    rw [waySteps, if_neg hslash]
    exact walk_of_walkToWrite h

/-- Steps are gone one stretch after the other. A link at the end of the first stretch is followed,
since there are steps behind it. -/
theorem advance_append {a b : List Text} (h : through = true ∨ b ≠ []) (place : Place) :
    t.advance through place (a ++ b) = (t.advance true place a >>= fun halt => match halt with
      | .arrived d => t.advance through d b
      | .turned dir target rest => .ok (.turned dir target (rest ++ b))) := by
  induction a generalizing place with
  | nil => rfl
  | cons step a ih =>
      cases hf : t.stepFault? place step with
      | some f => simp only [List.cons_append, advance, hf, error_bind]
      | none =>
          rw [List.cons_append, advance_cons hf, advance_cons hf]
          split
          · exact ih place
          · split
            · exact ih place.dropLast
            · split
              · rfl
              · cases (t.at? (place ++ [step])).bind Entry.target? with
                | none => exact ih (place ++ [step])
                | some target =>
                    have hfollow : ¬(a ++ b = [] && !through) = true := by
                      rcases h with rfl | hb
                      · simp
                      · simp [hb]
                    dsimp only
                    rw [if_neg hfollow, if_neg (by simp)]
                    rfl

/-- Behind its directory, a name is where a way ends or a link on it. -/
inductive Named (t : FileTree) (through : Bool) (d : Place) (name : Text) : Halt → Prop
  | arrived : Named t through d name (.arrived (d ++ [name]))
  | turned {target : Path} : through = true →
      (t.at? (d ++ [name])).bind Entry.target? = some target →
      Named t through d name (.turned d target [])

section

variable {name : Text} (hstay : staying name = false) (hdots : name ≠ Path.dotDot)
include hstay hdots

/-- The way to a name goes to a directory, or it turns before it is there. -/
theorem advance_concat {halt : Halt} (h : t.advance through place (steps ++ [name]) = .ok halt) :
    (∃ d e, t.advance true place steps = .ok (.arrived d) ∧ t.at? d = some e ∧ e.isDirectory ∧
      t.Named through d name halt) ∨
    ∃ dir target rest, t.advance true place steps = .ok (.turned dir target rest) ∧
      halt = .turned dir target (rest ++ [name]) := by
  rw [advance_append (.inr (List.cons_ne_nil name []))] at h
  obtain ⟨before, hb, h⟩ := bind_eq_ok.1 h
  cases before with
  | turned dir target rest => exact .inr ⟨dir, target, rest, hb, (Except.ok.inj h).symm⟩
  | arrived d =>
      obtain ⟨hf, hs⟩ := advance_cons_eq_ok.1 h
      obtain ⟨e, he, hd, -⟩ := stepFault?_eq_none.1 hf
      refine .inl ⟨d, e, hb, he, hd, ?_⟩
      cases hs with
      | stay hs _ => cases hs.symm.trans hstay
      | up hs _ => exact absurd hs hdots
      | link _ _ _ ht hh =>
          cases through with
          | false => exact hh ▸ .arrived
          | true => exact hh ▸ .turned rfl ht
      | name _ _ _ _ hrest => exact Except.ok.inj hrest ▸ .arrived

/-- The place of a name itself is in the directory that the steps before it lead to. -/
theorem walk_concat {links : Nat} (h : t.walk false links place (steps ++ [name]) = .ok q) :
    ∃ d e, t.walk true links place steps = .ok d ∧ t.at? d = some e ∧ e.isDirectory ∧
      q = d ++ [name] := by
  have hleads := walk_eq_ok.1 h
  clear h
  generalize hall : steps ++ [name] = all at hleads
  induction hleads generalizing steps with
  | arrived ha =>
      subst hall
      obtain ⟨d, e, hb, he, hd, hn⟩ | ⟨_, _, _, -, hturned⟩ := advance_concat hstay hdots ha
      · refine ⟨d, e, walk_eq_ok.2 (.arrived hb), he, hd, ?_⟩
        cases hn
        rfl
      · cases hturned
  | turned ha _ ih =>
      subst hall
      obtain ⟨_, _, -, -, -, hnamed⟩ | ⟨dir, target, rest, hb, hturned⟩ :=
        advance_concat hstay hdots ha
      · cases hnamed with
        | turned ht _ => cases ht
      · obtain ⟨rfl, rfl, rfl⟩ := Halt.turned.inj hturned
        obtain ⟨d, e, hw, hrest⟩ := ih (List.append_assoc _ _ _)
        exact ⟨d, e, walk_eq_ok.2 (.turned hb (walk_eq_ok.1 hw)), hrest⟩

/-- What is written under a name is in the directory that the steps before it lead to, unless a
link of that name leads elsewhere. -/
theorem walkToWrite_concat {links : Nat} (h : t.walkToWrite links place (steps ++ [name]) = .ok q) :
    ∃ d e, t.walk true links place steps = .ok d ∧ t.at? d = some e ∧ e.isDirectory ∧
      (q = d ++ [name] ∨ ∃ target, (t.at? (d ++ [name])).bind Entry.target? = some target) := by
  have hleads := walkToWrite_eq_ok.1 h
  clear h
  generalize hall : steps ++ [name] = all at hleads
  induction hleads generalizing steps with
  | arrived ha _ =>
      subst hall
      obtain ⟨d, e, hb, he, hd, hn⟩ | ⟨_, _, _, -, hturned⟩ := advance_concat hstay hdots ha
      · refine ⟨d, e, walk_eq_ok.2 (.arrived hb), he, hd, ?_⟩
        cases hn
        exact .inl rfl
      · cases hturned
  | turned ha _ ih =>
      subst hall
      obtain ⟨d, e, hb, he, hd, hnamed⟩ | ⟨dir, target, rest, hb, hturned⟩ :=
        advance_concat hstay hdots ha
      · refine ⟨d, e, walk_eq_ok.2 (.arrived hb), he, hd, ?_⟩
        cases hnamed with
        | turned _ ht => exact .inr ⟨_, ht⟩
      · obtain ⟨rfl, rfl, rfl⟩ := Halt.turned.inj hturned
        obtain ⟨d, e, hw, hrest⟩ := ih (stepsBehind_concat _ _ _).symm
        exact ⟨d, e, walk_eq_ok.2 (.turned hb (walk_eq_ok.1 hw)), hrest⟩

end

/-- A slash behind the way to a directory stays there. -/
theorem walk_concat_slash {links : Nat} {d : Place} {e : Entry}
    (h : t.walk true links place steps = .ok d) (he : t.at? d = some e) (hd : e.isDirectory) :
    t.walk true links place (steps ++ [slashStep]) = .ok d := by
  have hstay : t.advance true d [slashStep] = .ok (.arrived d) :=
    advance_cons_eq_ok.2 ⟨stepFault?_eq_none.2 ⟨e, he, hd, .inl rfl⟩, .stay rfl rfl⟩
  have hleads := walk_eq_ok.1 h
  clear h he
  refine walk_eq_ok.2 ?_
  induction hleads with
  | arrived ha =>
      refine .arrived ?_
      rw [advance_append (.inl rfl), ha]
      exact hstay
  | @turned _ place dir _ steps rest target ha _ ih =>
      have hb : t.advance true place (steps ++ [slashStep]) =
          .ok (.turned dir target (rest ++ [slashStep])) := by
        rw [advance_append (.inl rfl), ha]
        rfl
      refine .turned hb ?_
      rw [← List.append_assoc]
      exact ih hstay

end

end Weave.FileTree
