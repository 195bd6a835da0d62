import Weave.Proofs.Conversion.Outcome

/-!
# What a conversion leaves of its source

The source is only read, but nothing keeps the artifact from taking its place: a
conversion that succeeds has replaced its source if the path of the artifact leads there.
-/
namespace Weave.Conversion

/-- Whether two paths lead to one file. -/
def LeadTogether (t : FileTree) (a b : Path) : Prop :=
  ∃ p q, t.placeOf a true = .ok p ∧ t.placeOf b true = .ok q ∧ t.SameFile p q

/-- What a path leads to is as it was, and so is what is read by it. -/
def Unchanged (before after : FileTree) (p : Path) : Prop :=
  after.find p = before.find p ∧ after.readBytes p = before.readBytes p

/-- What is left of a source: the artifact, if it was stored by a path that leads to the source,
or else what it was. -/
def SourceLeft (config : Config) (target : Target) (input : Path) (before : FileTree)
    (result : Except Error Generated) (after : FileTree) : Prop :=
  match result with
  | .error _ => Unchanged before after input
  | .ok g =>
    (¬LeadTogether before input g.output → Unchanged before after input) ∧
    (LeadTogether before input g.output → ∃ content text, before.readText input = .ok content ∧
      artifact config target g.name content = .ok text ∧ after.readText input = .ok text)

section

variable {config : Config} {target : Target} {input outdir : Path} {before after : FileTree}
  {result : Except Error Generated} {place : Place} {e : Entry}

theorem Course.sourceLeft (h : Course config target input outdir before result after)
    (hin : before.find input = .ok (place, e)) (hf : e.isFile) :
    SourceLeft config target input before result after := by
  obtain ⟨hplace, he⟩ := FileTree.find_eq_ok.1 hin
  cases h with
  | noDirectory _ => exact ⟨rfl, rfl⟩
  | nameless _ _ _ => exact ⟨rfl, rfl⟩
  | missing _ _ _ => exact ⟨rfl, rfl⟩
  | unreadable _ _ _ _ => exact ⟨rfl, rfl⟩
  | unwritable _ _ => exact ⟨rfl, rfl⟩
  | @written g text after hprepared hwrite =>
      obtain ⟨content, -, hread, -, hmade⟩ := hprepared.exists_content
      obtain ⟨out, hout, hfill⟩ := FileTree.exists_of_writeText hwrite
      have hpath : LeadTogether before input g.output ↔ before.SameFile place out := by
        constructor
        · rintro ⟨p, q, hp, hq, hs⟩
          rwa [Except.ok.inj (hplace.symm.trans hp), Except.ok.inj (hout.symm.trans hq)]
        · exact fun hs => ⟨place, out, hplace, hout, hs⟩
      by_cases hd : ∀ d, before.at? out = some d → d.isDevice = false
      · have hw := FileTree.written_of_fill hfill hd
        refine ⟨fun hn => ?_, fun hs => ⟨content, text, hread, hmade, ?_⟩⟩
        · have hfind := hw.find hin fun hs => hn (hpath.2 hs)
          refine ⟨hfind.trans hin.symm, ?_⟩
          simp only [FileTree.readBytes, hfind, hin, ok_bind, hw.keepsWays.refusal?_eq]
        · -- a source that was read may be read again
          obtain ⟨bytes, hbytes, -⟩ := bind_eq_ok.1 hread
          obtain ⟨q, d, hfound, hfree, -⟩ := FileTree.readBytes_eq_ok.1 hbytes
          obtain ⟨rfl, -⟩ := Prod.mk.inj (Except.ok.inj (hfound.symm.trans hin))
          rw [FileTree.readText, hw.readBytes hplace (hpath.1 hs) hfree, ok_bind,
            FileTree.textOfBytes_bytesOfText]
      · obtain ⟨d, hat, hdev⟩ : ∃ d, before.at? out = some d ∧ d.isDevice = true := by
          simpa using hd
        obtain rfl := FileTree.eq_of_fill_device hat hdev hfill
        refine ⟨fun _ => ⟨rfl, rfl⟩, fun hs => ?_⟩
        -- a source is no device
        obtain rfl := FileTree.SameFile.eq_of_at? (hpath.1 hs) he hat
        exact absurd hdev (by simp [FileTree.isDevice_of_isFile hf])

end

/-- A conversion that executes nothing leaves its source as it was, unless it stores the artifact
by a path that leads to the source. Then the artifact stands there. -/
theorem generate_source (executor : Executor) {config : Config} {target : Target}
    {input outdir : Path} {w : World} {place : Place} {e : Entry}
    (hx : executes config target = false) (hin : w.files.find input = .ok (place, e))
    (hf : e.isFile) :
    SourceLeft config target input w.files
      (w.run (generate executor config target input outdir)).1
      (w.run (generate executor config target input outdir)).2.files :=
  (course_generate executor input outdir hx w).1.sourceLeft hin hf

/-- The source of the sample. -/
theorem find_sample : sample.files.find "a.jl".toList =
    .ok (["a.jl".toList], .file (FileTree.bytesOfText "#' x\n1\n".toList) false) := by
  decide +kernel

theorem generate_source_sample : executes {} .markdown = false ∧
    sample.files.find "a.jl".toList =
      .ok (["a.jl".toList], .file (FileTree.bytesOfText "#' x\n1\n".toList) false) ∧
    SourceLeft {} .markdown "a.jl".toList sample.files
      (sample.run (generate idle {} .markdown "a.jl".toList "out".toList)).1
      (sample.run (generate idle {} .markdown "a.jl".toList "out".toList)).2.files :=
  ⟨rfl, find_sample, generate_source idle rfl find_sample rfl⟩

/-- A script made of a script, beside it and with its name, takes its place. -/
theorem generate_over_source : executes {} .script = false ∧
    sample.files.isDirectory Path.dot = true ∧
    sample.files.readText "a.jl".toList = .ok "#' x\n1\n".toList ∧
    (sample.run (generate idle {} .script "a.jl".toList Path.dot)).2.files.readText "a.jl".toList =
      .ok "1\n\n".toList ∧
    (sample.run (generate idle {} .script "a.jl".toList Path.dot)).2.files.readBytes
      "a.jl".toList ≠ sample.files.readBytes "a.jl".toList := by
  have hdir : sample.files.isDirectory Path.dot = true := by decide +kernel
  have htext : sample.files.readText "a.jl".toList = .ok "#' x\n1\n".toList := by
    rw [FileTree.readText, FileTree.readBytes, find_sample, ok_bind]
    exact FileTree.textOfBytes_bytesOfText "#' x\n1\n".toList
  have hstem : Config.nameFor {} "a.jl".toList = .ok "a".toList := by decide
  have hmade : artifact {} .script "a".toList "#' x\n1\n".toList = .ok "1\n\n".toList := by
    decide +kernel
  suffices hover : (sample.run (generate idle {} .script "a.jl".toList Path.dot)).2.files.readText
      "a.jl".toList = .ok "1\n\n".toList by
    refine ⟨rfl, hdir, htext, hover, fun hsame => ?_⟩
    rw [FileTree.readText, hsame] at hover
    exact absurd (hover.symm.trans htext) (by decide)
  have hc := (course_generate idle "a.jl".toList Path.dot
    (rfl : executes {} .script = false) sample).1
  have hs := hc.sourceLeft find_sample rfl
  generalize (sample.run _).1 = result at hc hs
  generalize (sample.run _).2.files = after at hc hs ⊢
  cases hc with
  | noDirectory h => exact absurd h (by decide +kernel)
  | nameless _ _ h => exact absurd h (by decide +kernel)
  | missing _ _ h => exact absurd h (by decide +kernel)
  | unreadable _ _ _ h => cases htext.symm.trans h
  | unwritable hprepared h =>
      obtain ⟨rfl, rfl⟩ := hprepared.unique (prepared_of_artifact hdir hstem htext hmade)
      have hok : (sample.files.writeText (outputPath .script "a".toList Path.dot)
          "1\n\n".toList).isOk = true := by decide +kernel
      rw [h] at hok
      cases hok
  | written hprepared _ =>
      obtain ⟨rfl, rfl⟩ := hprepared.unique (prepared_of_artifact hdir hstem htext hmade)
      have htogether : LeadTogether sample.files "a.jl".toList
          (outputPath .script "a".toList Path.dot) :=
        ⟨["a.jl".toList], ["a.jl".toList], by decide +kernel, by decide +kernel, .inl rfl⟩
      obtain ⟨content, text, hcontent, hmade', hafter⟩ := hs.2 htogether
      obtain rfl := Except.ok.inj (htext.symm.trans hcontent)
      obtain rfl := Except.ok.inj (hmade.symm.trans hmade')
      exact hafter

end Weave.Conversion
