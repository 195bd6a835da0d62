import Mathlib.Data.List.Perm.Basic
import Weave.Proofs.Conversion.Outcome
import Weave.Proofs.FileTree.Several

/-!
# Conversions in any order

A conversion reads its source and looks at its output directory, and then writes one file.
Where that file is neither the source nor the artifact of another conversion, what the other
one finds is not changed by it: its directory, its source and the place of its artifact stay.
So each of several conversions makes what it would make alone, and the order does not matter.

What a conversion has found and what it stores is kept as a deed, which is either fit for a
tree or not. A run of conversions is then the list of its deeds, and what it leaves is told by
the writes of the deeds.
-/
namespace Weave.Conversion

open FileTree (Filled Beside Alike)

/-- What is asked of a conversion. -/
structure Request where
  input : Path
  outdir : Path
  target : Target
  config : Config

namespace Request

def run (executor : Executor) (r : Request) : Run Generated :=
  generate executor r.config r.target r.input r.outdir

/-- Whether the path of the artifact leads to a place, where no file need be yet. -/
def StoresAt (r : Request) (t : FileTree) (p : Place) : Prop :=
  ∃ name, r.config.nameFor r.input = .ok name ∧
    t.placeOf (outputPath r.target name r.outdir) true = .ok p

end Request

/-- Takes conversions one after the other, until one fails. -/
def generateAll (executor : Executor) (rs : List Request) : Run (List Generated) :=
  rs.mapM (Request.run executor)

/-- The artifacts are different files, and none of them is a source. -/
structure Independent (t : FileTree) (rs : List Request) : Prop where
  artifacts : rs.Pairwise fun r s => ∀ p q, r.StoresAt t p → s.StoresAt t q → ¬t.OneFile p q
  sources : ∀ r ∈ rs, ∀ s ∈ rs, ∀ p q, t.placeOf r.input true = .ok p → s.StoresAt t q →
    ¬t.OneFile p q

/-- Whether a conversion taken in a world gives a summary and leaves the files as they are. -/
def Repeats (executor : Executor) (w : World) (r : Request) (g : Generated) : Prop :=
  (w.run (r.run executor)).1 = .ok g ∧ (w.run (r.run executor)).2.files.Alike w.files

/-- What a conversion has found: what it will tell, the text that it stores, and the place for
it. -/
structure Deed extends Request where
  summary : Generated
  text : Text
  place : Place

namespace Deed

/-- What is stored, and where. -/
def write (d : Deed) : Place × ByteArray :=
  (d.place, FileTree.bytesOfText d.text)

/-- Whether this is what the conversion finds in a tree, and the artifact can be written. -/
structure Fits (d : Deed) (t : FileTree) : Prop where
  prepared : Prepared d.config d.target d.input d.outdir t d.summary d.text
  leads : t.placeToWrite d.summary.output = .ok d.place
  allowed : t.writeRefusal? d.place = none
  taken : FileTree.takes d.write.2 (t.at? d.place) = true

end Deed

section

variable {a b t : FileTree} {d : Deed} {r : Request} {rs : List Request} {executor : Executor}
  {w : World} {g : Generated}

theorem Deed.Fits.storesAt (h : d.Fits t) : d.toRequest.StoresAt t d.place := by
  obtain ⟨content, hname, -, hout, -⟩ := h.prepared.exists_content
  exact ⟨d.summary.name, hname, hout ▸ FileTree.placeOf_of_placeToWrite h.leads⟩

/-- What is prepared does not change with files that are not read for it. -/
theorem Prepared.beside {apart : Place → Prop} {config : Config} {target : Target}
    {input outdir : Path} {text : Text} (h : Prepared config target input outdir a g text)
    (hb : a.Beside b apart) (hin : ∀ p, a.placeOf input true = .ok p → ¬apart p) :
    Prepared config target input outdir b g text := by
  cases h with
  | intro hdir hname hholds hread hcs hrendered =>
      have hread' := hb.readText hin hread
      exact .intro (hb.isDirectory hdir) hname (FileTree.holds_of_readText hread') hread' hcs
        hrendered

/-- What a conversion finds does not change with files that it neither reads nor writes. -/
theorem Deed.Fits.beside {apart : Place → Prop} (h : d.Fits a) (hb : a.Beside b apart)
    (hin : ∀ p, a.placeOf d.input true = .ok p → ¬apart p)
    (hfree : b.writeRefusal? d.place = none)
    (hout : FileTree.takes d.write.2 (b.at? d.place) = true) : d.Fits b :=
  ⟨h.prepared.beside hb hin, hb.ways.placeToWrite h.leads, hfree, hout⟩

/-- What a conversion that succeeds has found, and what it leaves. -/
theorem exists_fits (hx : executes r.config r.target = false)
    (h : (w.run (r.run executor)).1 = .ok g) :
    ∃ d : Deed, d.toRequest = r ∧ d.Fits w.files ∧ d.summary = g ∧
      w.files.Filled (w.run (r.run executor)).2.files [d.write] := by
  obtain ⟨hc, -⟩ := course_generate executor r.input r.outdir hx w
  change Course _ _ _ _ _ (w.run (r.run executor)).1 _ at hc
  rw [h] at hc
  cases hc with
  | @written g text after hprepared hwrite =>
      obtain ⟨place, hp, hfill⟩ := bind_eq_ok.1 hwrite
      obtain ⟨hfree, htakes⟩ := FileTree.exists_fill_iff.1 ⟨_, hfill⟩
      exact ⟨⟨r, g, text, place⟩, rfl, ⟨hprepared, hp, hfree, htakes⟩, rfl,
        FileTree.filled_of_fill hfill⟩

/-- A conversion whose deed is fit succeeds. -/
theorem Deed.Fits.run (h : d.Fits w.files) (executor : Executor)
    (hx : executes d.config d.target = false) :
    (w.run (d.toRequest.run executor)).1 = .ok d.summary ∧
      w.files.Filled (w.run (d.toRequest.run executor)).2.files [d.write] := by
  obtain ⟨hc, -⟩ := course_generate executor d.input d.outdir hx w
  change Course _ _ _ _ _ (w.run (d.toRequest.run executor)).1
    (w.run (d.toRequest.run executor)).2.files at hc
  obtain ⟨after, hfill⟩ := FileTree.exists_fill_iff.2 ⟨h.allowed, h.taken⟩
  have hwrite : w.files.writeText d.summary.output d.text = .ok after :=
    (FileTree.writeText_eq_fill h.leads _).trans hfill
  obtain ⟨content, hname, hread, -, -⟩ := h.prepared.exists_content
  generalize (w.run (d.toRequest.run executor)).1 = result at hc ⊢
  generalize (w.run (d.toRequest.run executor)).2.files = files at hc ⊢
  cases hc with
  | noDirectory hdir => cases hdir.symm.trans h.prepared.isDirectory
  | nameless _ hn hs =>
      rw [Config.nameFor, hn, hs] at hname
      cases hname
  | missing _ _ hholds => cases hholds.symm.trans (FileTree.holds_of_readText hread)
  | unreadable _ _ _ hfail => cases hfail.symm.trans hread
  | unwritable hprepared hfail =>
      obtain ⟨rfl, rfl⟩ := hprepared.unique h.prepared
      cases hfail.symm.trans hwrite
  | written hprepared hok =>
      obtain ⟨rfl, rfl⟩ := hprepared.unique h.prepared
      obtain rfl := Except.ok.inj (hok.symm.trans hwrite)
      exact ⟨rfl, FileTree.filled_of_fill hfill⟩

/-- A path of an artifact leads where it led when files are written. -/
theorem Request.StoresAt.beside {apart : Place → Prop} {p : Place} (hb : a.Beside b apart)
    (h : r.StoresAt b p) : r.StoresAt a p := by
  obtain ⟨name, hn, hp⟩ := h
  exact ⟨name, hn, hb.back.placeOf hp⟩

theorem Deed.Fits.eq_place {p : Place} (h : d.Fits t) (hs : d.toRequest.StoresAt t p) :
    p = d.place := by
  obtain ⟨name, hn, hp⟩ := hs
  obtain ⟨content, hname, -, hout, -⟩ := h.prepared.exists_content
  obtain rfl := Except.ok.inj (hname.symm.trans hn)
  rw [← hout] at hp
  exact Except.ok.inj (hp.symm.trans (FileTree.placeOf_of_placeToWrite h.leads))

/-- Conversions are independent where what they have found says so. -/
theorem independent_of_fits {ds : List Deed} (hf : ∀ d ∈ ds, d.Fits t)
    (ha : ds.Pairwise fun d e => ¬t.OneFile d.place e.place)
    (hs : ∀ d ∈ ds, ∀ p, t.placeOf d.input true = .ok p → ∀ e ∈ ds, ¬t.OneFile p e.place) :
    Independent t (ds.map Deed.toRequest) := by
  constructor
  · rw [List.pairwise_map]
    refine ha.imp_of_mem fun hd he hne p q hp hq => ?_
    rwa [(hf _ hd).eq_place hp, (hf _ he).eq_place hq]
  · intro r hr s hs' p q hp hq
    obtain ⟨d, hd, rfl⟩ := List.mem_map.1 hr
    obtain ⟨e, he, rfl⟩ := List.mem_map.1 hs'
    rw [(hf e he).eq_place hq]
    exact hs d hd p hp e he

/-- Conversions stay independent when files are written. -/
theorem Independent.beside {apart : Place → Prop} (h : Independent a rs)
    (hb : a.Beside b apart) : Independent b rs := by
  refine ⟨h.artifacts.imp fun hm p q hp hq ho => ?_, fun r hr s hs p q hp hq ho => ?_⟩
  · exact hm p q (hp.beside hb) (hq.beside hb) (hb.oneFile_iff.1 ho)
  · exact h.sources r hr s hs p q (hb.back.placeOf hp) (hq.beside hb) (hb.oneFile_iff.1 ho)

theorem Independent.tail (h : Independent t (r :: rs)) : Independent t rs :=
  ⟨(List.pairwise_cons.1 h.artifacts).2, fun r' hr s hs =>
    h.sources r' (List.mem_cons_of_mem r hr) s (List.mem_cons_of_mem r hs)⟩

theorem Independent.perm {rs' : List Request} (h : Independent t rs) (hp : rs.Perm rs') :
    Independent t rs' := by
  refine ⟨(hp.pairwise_iff ?_).1 h.artifacts, fun r hr s hs =>
    h.sources r (hp.mem_iff.2 hr) s (hp.mem_iff.2 hs)⟩
  exact fun hm p q hp hq ho => hm q p hq hp ho.symm

/-- Another conversion fits a tree before the files of others are written where it fits it
after. -/
theorem Deed.fits_iff {writes : List (Place × ByteArray)} (h : a.Filled b writes)
    (hin : ∀ p, a.placeOf d.input true = .ok p → ∀ v ∈ writes, ¬a.OneFile p v.1)
    (hout : ∀ v ∈ writes, ¬a.OneFile d.place v.1) : d.Fits b ↔ d.Fits a := by
  have hfree : ∀ {p}, (∀ v ∈ writes, ¬a.OneFile p v.1) → ¬a.Hit writes p :=
    fun hp ⟨v, hv, hs⟩ => hp v hv hs.oneFile
  have hat : b.at? d.place = a.at? d.place := h.others (hfree hout)
  constructor
  · intro hd
    have hallowed := (h.writeRefusal?_eq hat).symm.trans hd.allowed
    refine hd.beside h.beside.symm (fun p hp => ?_) hallowed (hat ▸ hd.taken)
    exact hfree (hin p (h.beside.back.placeOf hp))
  · intro hd
    exact hd.beside h.beside (fun p hp => hfree (hin p hp))
      ((h.writeRefusal?_eq hat).trans hd.allowed) (hat.symm ▸ hd.taken)

/-- The first of several conversions leaves to the others what they find. -/
theorem Independent.fits_iff {e : Deed} (hi : Independent a (d.toRequest :: rs))
    (he : e.toRequest ∈ rs) (hd : d.Fits a) (h : a.Filled b [d.write]) :
    e.Fits b ↔ e.Fits a := by
  have hin : ∀ p, a.placeOf e.input true = .ok p → ∀ v ∈ [d.write], ¬a.OneFile p v.1 := by
    intro p hp v hv
    rw [List.mem_singleton.1 hv]
    exact hi.sources _ (List.mem_cons_of_mem _ he) _ List.mem_cons_self p _ hp hd.storesAt
  have hout : e.toRequest.StoresAt a e.place → ∀ v ∈ [d.write], ¬a.OneFile e.place v.1 := by
    intro hs v hv ho
    rw [List.mem_singleton.1 hv] at ho
    exact (List.pairwise_cons.1 hi.artifacts).1 _ he _ _ hd.storesAt hs ho.symm
  constructor
  · intro hb
    exact (Deed.fits_iff h hin (hout (hb.storesAt.beside h.beside))).1 hb
  · intro ha
    exact (Deed.fits_iff h hin (hout ha.storesAt)).2 ha

/-- Where the first conversion succeeds, the others are taken in what it leaves. -/
theorem run_generateAll_cons (h : (w.run (r.run executor)).1 = .ok g) :
    w.run (generateAll executor (r :: rs)) =
      (((w.run (r.run executor)).2.run (generateAll executor rs)).1.map (g :: ·),
        ((w.run (r.run executor)).2.run (generateAll executor rs)).2) := by
  rw [generateAll, generateAll, List.mapM_cons, World.run_bind_ok w (Prod.ext h rfl),
    World.run_bind]
  cases (w.run (r.run executor)).2.run (rs.mapM (Request.run executor)) with
  | mk result after => cases result <;> rfl

/-- Independent conversions whose deeds are all fit succeed one after the other, and what they
leave is told by their writes. -/
theorem run_generateAll {ds : List Deed} (executor : Executor)
    (hx : ∀ d ∈ ds, executes d.config d.target = false)
    (hi : Independent w.files (ds.map Deed.toRequest)) (hf : ∀ d ∈ ds, d.Fits w.files) :
    (w.run (generateAll executor (ds.map Deed.toRequest))).1 = .ok (ds.map Deed.summary) ∧
      w.files.Filled (w.run (generateAll executor (ds.map Deed.toRequest))).2.files
        (ds.map Deed.write) := by
  induction ds generalizing w with
  | nil => exact ⟨rfl, .nil _⟩
  | cons d ds ih =>
      have hd : d.Fits w.files := hf d List.mem_cons_self
      obtain ⟨hok, hfill⟩ := hd.run executor (hx d List.mem_cons_self)
      have hrest : ∀ e ∈ ds, e.Fits (w.run (d.toRequest.run executor)).2.files := fun e he =>
        (hi.fits_iff (List.mem_map_of_mem he) hd hfill).2 (hf e (List.mem_cons_of_mem d he))
      obtain ⟨hoks, hfills⟩ := ih (fun e he => hx e (List.mem_cons_of_mem d he))
        (hi.tail.beside hfill.beside) hrest
      rw [List.map_cons, run_generateAll_cons hok]
      refine ⟨by rw [hoks]; rfl, hfill.cons hfills fun v hv ho => ?_⟩
      obtain ⟨e, he, rfl⟩ := List.mem_map.1 hv
      exact (List.pairwise_cons.1 hi.artifacts).1 _ (List.mem_map_of_mem he) _ _ hd.storesAt
        (hf e (List.mem_cons_of_mem d he)).storesAt ho

/-- If independent conversions succeed one after the other, each of them has found what it
would have found alone. -/
theorem exists_fits_generateAll {gs : List Generated}
    (hx : ∀ r ∈ rs, executes r.config r.target = false) (hi : Independent w.files rs)
    (h : (w.run (generateAll executor rs)).1 = .ok gs) :
    ∃ ds : List Deed, ds.map Deed.toRequest = rs ∧ ds.map Deed.summary = gs ∧
      ∀ d ∈ ds, d.Fits w.files := by
  induction rs generalizing w gs with
  | nil =>
      obtain rfl : [] = gs := Except.ok.inj h
      exact ⟨[], rfl, rfl, nofun⟩
  | cons r rs ih =>
      cases hr : (w.run (r.run executor)).1 with
      | error e =>
          rw [generateAll, List.mapM_cons, World.run_bind_error w (Prod.ext hr rfl)] at h
          cases h
      | ok g =>
          obtain ⟨d, rfl, hd, rfl, hfill⟩ := exists_fits (hx r List.mem_cons_self) hr
          rw [run_generateAll_cons hr] at h
          cases hs : ((w.run (d.toRequest.run executor)).2.run (generateAll executor rs)).1 with
          | error e =>
              rw [hs] at h
              cases h
          | ok gs' =>
              rw [hs] at h
              obtain rfl : d.summary :: gs' = gs := Except.ok.inj h
              -- The others have found this in what the first leaves, and so before it too.
              obtain ⟨ds, rfl, rfl, hds⟩ := ih (fun r hr => hx r (List.mem_cons_of_mem _ hr))
                (hi.tail.beside hfill.beside) hs
              refine ⟨d :: ds, rfl, rfl, fun e he => ?_⟩
              obtain rfl | he := List.mem_cons.1 he
              · exact hd
              · exact (hi.fits_iff (List.mem_map_of_mem he) hd hfill).1 (hds e he)

/-- A conversion that is taken once more stores what is there already. -/
theorem repeats_of_filled {ds : List Deed} {after : World} (executor : Executor)
    (hx : executes d.config d.target = false) (hi : Independent t (ds.map Deed.toRequest))
    (hf : ∀ e ∈ ds, e.Fits t) (h : t.Filled after.files (ds.map Deed.write)) (hd : d ∈ ds) :
    Repeats executor after d.toRequest d.summary := by
  obtain ⟨htakes, hagain⟩ := h.again (List.mem_map_of_mem hd) (hf d hd).taken
  have hin : ∀ p, t.placeOf d.input true = .ok p → ¬t.Hit (ds.map Deed.write) p := by
    rintro p hp ⟨v, hv, hs⟩
    obtain ⟨e, he, rfl⟩ := List.mem_map.1 hv
    exact hi.sources _ (List.mem_map_of_mem hd) _ (List.mem_map_of_mem he) p _ hp
      (hf e he).storesAt hs.oneFile
  obtain ⟨hok, hfill⟩ := ((hf d hd).beside h.beside hin
    (h.writeRefusal?_eq_none (hf d hd).allowed) htakes).run executor hx
  exact ⟨hok, hagain _ hfill⟩

/-- A rearrangement of what a list is mapped to comes from one of the list. -/
theorem exists_perm_map_eq {α β : Type} {f : α → β} {as : List α} {bs : List β}
    (h : (as.map f).Perm bs) : ∃ as' : List α, as'.Perm as ∧ as'.map f = bs := by
  have has : List.Forall₂ (fun b a => b = f a) (as.map f) as :=
    List.forall₂_map_left_iff.2 (List.forall₂_same.2 fun _ _ => rfl)
  obtain ⟨as', has', hp⟩ := List.perm_comp_forall₂ h.symm has
  have heq := List.forall₂_map_right_iff.2 has'
  rw [List.forall₂_eq_eq_eq] at heq
  exact ⟨as', hp, heq.symm⟩

end

/-- Independent conversions that succeed in one order succeed in every order, with the same
summaries and the same files, and each can then be repeated and changes nothing. -/
theorem generateAll_perm (executor : Executor) {w : World} {rs rs' : List Request}
    {gs : List Generated} (hx : ∀ r ∈ rs, executes r.config r.target = false)
    (hi : Independent w.files rs) (hok : (w.run (generateAll executor rs)).1 = .ok gs)
    (hp : rs.Perm rs') :
    ∃ gs', (w.run (generateAll executor rs')).1 = .ok gs' ∧
      (rs.zip gs).Perm (rs'.zip gs') ∧
      (w.run (generateAll executor rs)).2.files.Alike (w.run (generateAll executor rs')).2.files ∧
      ∀ r g, (r, g) ∈ rs'.zip gs' → Repeats executor (w.run (generateAll executor rs')).2 r g := by
  obtain ⟨ds, rfl, rfl, hf⟩ := exists_fits_generateAll hx hi hok
  obtain ⟨ds', hds, rfl⟩ := exists_perm_map_eq hp
  have hx' : ∀ d ∈ ds', executes d.config d.target = false := fun d hd =>
    hx _ (List.mem_map_of_mem (hds.mem_iff.1 hd))
  have hf' : ∀ d ∈ ds', d.Fits w.files := fun d hd => hf d (hds.mem_iff.1 hd)
  have hi' := hi.perm hp
  obtain ⟨-, hfill⟩ := run_generateAll executor (fun d hd => hx _ (List.mem_map_of_mem hd)) hi hf
  obtain ⟨hok', hfill'⟩ := run_generateAll executor hx' hi' hf'
  refine ⟨ds'.map Deed.summary, hok', ?_, hfill.alike hfill' fun v => ?_, fun r g hrg => ?_⟩
  · rw [List.zip_map', List.zip_map']
    exact hds.symm.map _
  · exact (hds.symm.map Deed.write).mem_iff
  · rw [List.zip_map'] at hrg
    obtain ⟨d, hd, heq⟩ := List.mem_map.1 hrg
    obtain ⟨rfl, rfl⟩ := Prod.mk.inj heq
    exact repeats_of_filled executor (hx' d hd) hi' hf' hfill' hd

/-- The sample with an artifact of an earlier conversion, which is also kept elsewhere. -/
def resumed : World where
  files := { sample.files with
    entries := sample.files.entries ++ [
      (["out".toList, "a.md".toList],
        { Entry.file (FileTree.bytesOfText "old".toList) false with sharing := some 1 }),
      (["kept.md".toList],
        { Entry.file (FileTree.bytesOfText "old".toList) false with sharing := some 1 })] }

/-- A source made into a script and into a document. -/
def twofold : List Deed :=
  [⟨⟨"a.jl".toList, "out".toList, .script, {}⟩,
      ⟨.script, "out/a.jl".toList, "a".toList, 1, 1, false⟩, "1\n\n".toList,
      ["out".toList, "a.jl".toList]⟩,
    ⟨⟨"a.jl".toList, "out".toList, .markdown, {}⟩,
      ⟨.markdown, "out/a.md".toList, "a".toList, 1, 1, false⟩,
      "x\n\n```@example a\n1\n```\n\n".toList, ["out".toList, "a.md".toList]⟩]

theorem fits_twofold : ∀ d ∈ twofold, d.Fits resumed.files := by
  have hfind : resumed.files.find "a.jl".toList =
      .ok (["a.jl".toList], .file (FileTree.bytesOfText "#' x\n1\n".toList) false) := by
    decide +kernel
  have hread : resumed.files.readText "a.jl".toList = .ok "#' x\n1\n".toList := by
    rw [FileTree.readText, FileTree.readBytes, hfind, ok_bind]
    exact FileTree.textOfBytes_bytesOfText "#' x\n1\n".toList
  have hname : Config.nameFor {} "a.jl".toList = .ok "a".toList := by decide
  have hdir : resumed.files.isDirectory "out".toList = true := by decide +kernel
  simp only [twofold, List.forall_mem_cons, List.not_mem_nil, false_implies, implies_true, and_true]
  refine ⟨⟨prepared_of_artifact hdir hname hread ?_, ?_, ?_, ?_⟩,
    ⟨prepared_of_artifact hdir hname hread ?_, ?_, ?_, ?_⟩⟩ <;> decide +kernel

def twofoldRequests : List Request :=
  twofold.map Deed.toRequest

theorem independent_twofold : Independent resumed.files (twofoldRequests) := by
  have hinput : ∀ d ∈ twofold, d.input = "a.jl".toList := by decide
  have hin : resumed.files.placeOf "a.jl".toList true = .ok ["a.jl".toList] := by decide +kernel
  refine independent_of_fits fits_twofold (by decide +kernel) fun d hd p hp => ?_
  rw [hinput d hd, hin] at hp
  obtain rfl := Except.ok.inj hp
  decide +kernel

theorem generateAll_perm_sample :
    (∀ r ∈ twofoldRequests, executes r.config r.target = false) ∧
    Independent resumed.files twofoldRequests ∧
    (resumed.run (generateAll idle twofoldRequests)).1 = .ok (twofold.map Deed.summary) ∧
    twofoldRequests.Perm twofoldRequests.reverse ∧
    ∃ gs', (resumed.run (generateAll idle twofoldRequests.reverse)).1 = .ok gs' ∧
      (twofoldRequests.zip (twofold.map Deed.summary)).Perm (twofoldRequests.reverse.zip gs') ∧
      (resumed.run (generateAll idle twofoldRequests)).2.files.Alike
        (resumed.run (generateAll idle twofoldRequests.reverse)).2.files ∧
      ∀ r g, (r, g) ∈ twofoldRequests.reverse.zip gs' →
        Repeats idle (resumed.run (generateAll idle twofoldRequests.reverse)).2 r g := by
  have hx : ∀ d ∈ twofold, executes d.config d.target = false := by decide
  have hx' : ∀ r ∈ twofoldRequests, executes r.config r.target = false :=
    List.forall_mem_map.2 hx
  have hok := (run_generateAll idle hx independent_twofold fits_twofold).1
  have hp := (List.reverse_perm twofoldRequests).symm
  exact ⟨hx', independent_twofold, hok, hp, generateAll_perm idle hx' independent_twofold hok hp⟩

end Weave.Conversion
