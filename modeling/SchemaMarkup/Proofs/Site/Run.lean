import SchemaMarkup.Proofs.Expander.Session
import SchemaMarkup.Proofs.Site.Sources

set_option autoImplicit false

/-!
# The stages of a run

A run makes its expander and its output directory, collects its sources, expands them and reports
what was written. All sources are expanded with the one expander. A source that is no text ends the
run behind the ones before it.

## Main results

* `SchemaMarkup.Run.exists_of_collected` — what stands ready once the sources are collected.
* `SchemaMarkup.Run.perform_expand_of_holds`, `SchemaMarkup.Run.perform_expand_of_notText` — what
  becomes of the sources.
* `SchemaMarkup.Run.perform_all` — what all stages come to.
-/

namespace SchemaMarkup

namespace Run

variable {r : Run} {stop : Stop} {w w' : Expander} {bytes : List UInt8} {v : Vocabulary}
  {n : List String} {names before after : List (List String)} {texts outs : List String} {b : Int}

/-- Stages are performed part by part. -/
lemma perform_append (r : Run) (ss ss' : List Stage) :
    r.perform (ss ++ ss') = (r.perform ss).andThen fun r => r.perform ss' := by
  induction ss generalizing r with
  | nil => simp only [List.nil_append, perform, Outcome.start_andThen]
  | cons s ss ih => simp only [List.cons_append, perform, ih, Outcome.andThen_assoc]

/-! ## The first stages -/

lemma exists_of_makeExpander (h : r.makeExpander.stop = none) :
    ∃ v w, r.loadVocabulary.1 = .ok v ∧
      Expander.new r.settings v (some r.semantic) r.suffixes (some !r.disable) = .ok w ∧
      r.makeExpander.run = { r with vocabulary := some v, expander := some w } := by
  simp only [makeExpander] at h ⊢
  cases hloaded : r.loadVocabulary.1 with
  | error s => simp [hloaded] at h
  | ok v =>
    simp only [hloaded] at h ⊢
    cases hnew : Expander.new r.settings v (some r.semantic) r.suffixes (some !r.disable) with
    | error u => simp [hnew] at h
    | ok w => exact ⟨v, w, rfl, hnew, rfl⟩

lemma exists_of_makeOutput (h : r.makeOutput.stop = none) :
    ∃ d, r.disk.makeDirectories r.outputDirectory = .ok d ∧
      r.makeOutput.run = { r with disk := d, ready := true } := by
  simp only [makeOutput] at h ⊢
  cases hmake : r.disk.makeDirectories r.outputDirectory with
  | error f => simp [hmake] at h
  | ok d => exact ⟨d, rfl, rfl⟩

/-- **What the check comes to** if it succeeds: the vocabulary, the expander and the output
directory. -/
lemma exists_of_check (h : r.check.stop = none) :
    ∃ b v w d, r.verbosity = some b ∧ r.loadVocabulary.1 = .ok v ∧
      Expander.new r.settings v (some r.semantic) r.suffixes (some !r.disable) = .ok w ∧
      r.disk.makeDirectories r.outputDirectory = .ok d ∧
      r.check.run =
        { r with vocabulary := some v, expander := some w, disk := d, ready := true } := by
  cases hb : r.verbosity with
  | none => simp [check, hb] at h
  | some b =>
    simp only [check, hb] at h ⊢
    split at h
    · simp at h
    · rename_i hdirectory
      rw [if_neg hdirectory]
      obtain ⟨htold, houtput, hrun⟩ := Outcome.of_andThen_eq_none h
      obtain ⟨hmade, -, hrunTold⟩ := Outcome.of_andThen_eq_none htold
      obtain ⟨-, hstop, hrunMade⟩ := Outcome.of_andThen_eq_none hmade
      obtain ⟨v, w, hv, hw, hexpander⟩ := exists_of_makeExpander (r := r) hstop
      simp only [hrunTold, hrunMade, hexpander] at houtput hrun
      obtain ⟨d, hd, houtput⟩ := exists_of_makeOutput houtput
      exact ⟨b, v, w, d, rfl, hv, hw, hd, by rw [hrun, houtput, hb]⟩

/-- **What is collected** if the selection is a pattern. -/
lemma exists_of_collect (h : r.collect.stop = none) :
    ∃ p, r.selection.pattern? = .ok p ∧
      r.collect.run = { r with sources := p.files r.disk r.inputDirectory } := by
  cases hp : r.selection.pattern? with
  | error fault => simp [collect, hp] at h
  | ok p => exact ⟨p, rfl, by simp only [collect, hp]⟩

/-- Reporting changes nothing, and a report of files that were written stops nothing. -/
lemma finish_of_report {files : List String} (h : r.report = some ⟨some true, some files⟩)
    (hverbosity : r.verbosity = some b) : r.finish.stop = none ∧ r.finish.run = r := by
  have htold : r.report.filter (!·.isBlank) = some ⟨some true, some files⟩ := by rw [h]; rfl
  simp only [finish, htold, hverbosity]
  split <;> exact ⟨rfl, rfl⟩

/-- **What stands ready once the files are collected.** -/
theorem exists_of_collected (h : (r.perform [.check, .collect]).stop = none) :
    ∃ b v w d p, r.verbosity = some b ∧ r.loadVocabulary.1 = .ok v ∧
      Expander.new r.settings v (some r.semantic) r.suffixes (some !r.disable) = .ok w ∧
      r.disk.makeDirectories r.outputDirectory = .ok d ∧ r.selection.pattern? = .ok p ∧
      (r.perform [.check, .collect]).run =
        { r with
          vocabulary := some v
          expander := some w
          disk := d
          ready := true
          sources := Pattern.files d p r.inputDirectory } := by
  simp only [perform, stage, Outcome.andThen_start] at h ⊢
  obtain ⟨hcheck, hcollect, hrun⟩ := Outcome.of_andThen_eq_none h
  obtain ⟨b, v, w, d, hb, hv, hw, hd, hchecked⟩ := exists_of_check hcheck
  obtain ⟨p, hp, hcollected⟩ := exists_of_collect hcollect
  rw [hchecked] at hp
  refine ⟨b, v, w, d, p, hb, hv, hw, hd, hp, ?_⟩
  rw [hrun, hcollected, hchecked]

/-- The files that were written are reported once all sources are expanded. -/
lemma expand_of_none (h : (r.expandSources r.sources).stop = none) :
    r.expand.stop = none ∧ r.expand.run =
      let r' := (r.expandSources r.sources).run
      let written := (r'.sources.filterMap r'.target?).map Path.text
      { r' with report := some ⟨some true, some written⟩ } := by
  rw [expand, Outcome.andThen_of_none (o := { run := r, notes := _ }) rfl, Outcome.andThen_of_none]
  · exact ⟨rfl, rfl⟩
  · exact h

/-- Nothing is reported if a source stops the run. -/
lemma expand_of_some (h : (r.expandSources r.sources).stop = some stop) :
    r.expand.stop = some stop ∧ r.expand.run = (r.expandSources r.sources).run := by
  rw [expand, Outcome.andThen_of_none (o := { run := r, notes := _ }) rfl, Outcome.andThen_of_some]
  · exact ⟨h, rfl⟩
  · exact h

lemma perform_expand_finish (r : Run) :
    r.perform [.expand, .finish] = r.expand.andThen finish := by
  simp only [perform, stage, Outcome.andThen_start]

/-- The sources are expanded and reported if all of them are texts. -/
theorem perform_expand_of_holds (hexpander : r.expander = some w) (hverbosity : r.verbosity = some b)
    (hsources : r.sources = names.map r.inputDirectory.join)
    (hholds : List.Forall₂ (fun n text => r.disk.Holds (r.inputDirectory.join n) text) names texts)
    (hpasses : w.Passes texts outs w')
    (hapart : names.Pairwise fun m n =>
      r.disk.placeOf (r.outputDirectory.join m) ≠ r.disk.placeOf (r.inputDirectory.join n))
    (hwrites : (r.perform [.expand, .finish]).NoWriteRefused) :
    let o := r.perform [.expand, .finish]
    o.stop = none ∧ o.run.expander = some w' ∧
      o.run.report = some ⟨some true, some (names.map fun n => (r.outputDirectory.join n).text)⟩ ∧
      o.run.disk.item? =
        r.disk.received ((names.map r.outputDirectory.join).zip (outs.map Text.toFile)) := by
  have hexpands : (r.expandSources r.sources).NoWriteRefused :=
    hwrites.of_andThen.of_andThen.of_run rfl
  rw [hsources] at hexpands
  obtain ⟨d, hstop, hrun, -, -, hitem⟩ :=
    exists_of_expandSources hexpander hholds hpasses hapart hexpands
  rw [← hsources] at hstop hrun
  have hwritten : r.sources.filterMap r.target? = names.map r.outputDirectory.join := by
    rw [hsources, List.filterMap_map, ← List.filterMap_eq_map]
    exact List.filterMap_congr fun n _ => r.target?_join n
  obtain ⟨hstop', hrun'⟩ := expand_of_none hstop
  have hreport : r.expand.run =
      { r with
        disk := d
        expander := some w'
        report := some ⟨some true, some ((names.map r.outputDirectory.join).map Path.text)⟩ } := by
    rw [hrun', hrun, ← hwritten]
    rfl
  obtain ⟨hfinish, hfinal⟩ := finish_of_report (r := r.expand.run) (by rw [hreport])
    (by rw [hreport]; exact hverbosity)
  rw [perform_expand_finish, Outcome.andThen_of_none hstop']
  simp only [hfinish, hfinal]
  rw [hreport, List.map_map]
  exact ⟨trivial, rfl, rfl, hitem⟩

/-- A source that is no text ends the run behind the sources before it. -/
theorem perform_expand_of_notText (hexpander : r.expander = some w)
    (hsources : r.sources = (before ++ n :: after).map r.inputDirectory.join)
    (hholds : List.Forall₂ (fun n text => r.disk.Holds (r.inputDirectory.join n) text) before texts)
    (hpasses : w.Passes texts outs w') {fault : Text.Utf8.Fault}
    (hread : r.disk.readFile (r.inputDirectory.join n) = .ok bytes)
    (htext : Text.ofFile bytes = .error fault)
    (hapart : (before ++ n :: after).Pairwise fun m n =>
      r.disk.placeOf (r.outputDirectory.join m) ≠ r.disk.placeOf (r.inputDirectory.join n))
    (hwrites : (r.perform [.expand, .finish]).NoWriteRefused) :
    let o := r.perform [.expand, .finish]
    o.stop = some (.notText (r.inputDirectory.join n) fault) ∧ o.run.report = r.report ∧
      o.run.disk.item? =
        r.disk.received ((before.map r.outputDirectory.join).zip (outs.map Text.toFile)) := by
  have hexpands : (r.expandSources r.sources).NoWriteRefused :=
    hwrites.of_andThen.of_andThen.of_run rfl
  rw [hsources, List.map_append, expandSources_append] at hexpands
  obtain ⟨hapartBefore, -, hapart⟩ := List.pairwise_append.1 hapart
  obtain ⟨d, hstop, hrun, hkeeps, hstays, hitem⟩ :=
    exists_of_expandSources hexpander hholds hpasses hapartBefore hexpands.of_andThen
  have hread' : d.readFile (r.inputDirectory.join n) = .ok bytes :=
    hkeeps.readFile hread fun i =>
      hstays _ i fun m hm => (hapart m hm n List.mem_cons_self).symm
  have hnotText := expandSource_of_notText (r := { r with disk := d, expander := some w' })
    (r.target?_join n) hread' htext
  have hexpanded : (r.expandSources r.sources).stop =
        some (.notText (r.inputDirectory.join n) fault) ∧
      (r.expandSources r.sources).run = { r with disk := d, expander := some w' } := by
    rw [hsources, List.map_append, expandSources_append, Outcome.andThen_of_none hstop, hrun,
      List.map_cons, expandSources, hnotText, Outcome.andThen_of_some rfl]
    exact ⟨rfl, by rw [hsources, List.map_append, List.map_cons]⟩
  obtain ⟨hstop', hrun'⟩ := hexpanded
  obtain ⟨hstops, hends⟩ := expand_of_some hstop'
  rw [perform_expand_finish, Outcome.andThen_of_some hstops]
  refine ⟨hstops, ?_, ?_⟩
  · rw [hends, hrun']
  · rw [hends, hrun', hitem]

/-- The parents of all types are named in the vocabulary of a run that has been given none. -/
lemma parentsNamed_of_loadVocabulary (hnone : r.vocabulary = none)
    (hpath : r.settings.vocabularyPath = none) (hv : r.loadVocabulary.1 = .ok v) :
    v.ParentsNamed := by
  rw [loadVocabulary, hnone, hpath] at hv
  obtain rfl := Except.ok.inj hv
  have hbundled : Vocabulary.bundled.ParentsNamed := by decide +kernel
  exact hbundled

/-- All stages come to what the last two make of the files that the first two have collected. -/
lemma perform_all_of_collected (h : (r.perform [.check, .collect]).stop = none) :
    let c := (r.perform [.check, .collect]).run
    (r.perform Stage.all).stop = (c.perform [.expand, .finish]).stop ∧
      (r.perform Stage.all).run = (c.perform [.expand, .finish]).run := by
  have hall : r.perform Stage.all = _ := r.perform_append [.check, .collect] [.expand, .finish]
  rw [hall, Outcome.andThen_of_none h]
  exact ⟨rfl, rfl⟩

/-- **A run expands its files in order with one expander**, and stops cleanly. Take a run whose files
have been collected, no output of one of which is the place of a later one, and suppose that no
directory and no file is refused that is to be written. The expander is made from the settings and
the options. Every file can be read, and it holds one text, or it is no text; there are passes over
any texts if the vocabulary is the bundled one or another that names the parents of all types. If all
files hold texts, the run succeeds: it has written the passes over them, each at the path that leads on from the output
directory as the path of its file leads on from the input directory, and it reports these paths. If a
file is no text and the ones before it are, the exit status is one: the disk has received what becomes
of the files before it, with the directories around them, and nothing else, and nothing is reported.

**Proof sketch.** Induction on the files (`exists_of_expandSources`). A file is read first, so that a
file that is no text leaves no trace (`expandSource_of_notText`). -/
theorem perform_all (r : Run) (hcollected : (r.perform [.check, .collect]).stop = none)
    (hapart : (r.perform [.check, .collect]).run.sources.Pairwise fun f g =>
      ∀ t ∈ (r.perform [.check, .collect]).run.target? f,
        (r.perform [.check, .collect]).run.disk.placeOf t ≠
          (r.perform [.check, .collect]).run.disk.placeOf g)
    (hwrites : (r.perform Stage.all).NoWriteRefused) :
    let c := (r.perform [.check, .collect]).run
    let o := r.perform Stage.all
    ∃ v w names, r.loadVocabulary.1 = .ok v ∧
      Expander.new r.settings v (some r.semantic) r.suffixes (some !r.disable) = .ok w ∧
      r.disk.makeDirectories r.outputDirectory = .ok c.disk ∧
      c.sources = names.map r.inputDirectory.join ∧
      (∀ n ∈ names, ∃ bytes, c.disk.readFile (r.inputDirectory.join n) = .ok bytes ∧
        ((∃ text, '\r' ∉ text.toList ∧
            ∀ text', c.disk.Holds (r.inputDirectory.join n) text' ↔ text' = text) ∨
          ∀ s, bytes ≠ Text.toFile s)) ∧
      ((r.vocabulary = none ∧ r.settings.vocabularyPath = none) ∨ v.ParentsNamed →
        ∀ texts, ∃ outs w', w.Passes texts outs w') ∧
      (∀ texts outs w',
        List.Forall₂ (fun n text => c.disk.Holds (r.inputDirectory.join n) text) names texts →
        w.Passes texts outs w' →
          o.stop = none ∧ o.status = 0 ∧ o.run.expander = some w' ∧
          o.run.report =
            some ⟨some true, some (names.map fun n => (r.outputDirectory.join n).text)⟩ ∧
          o.run.disk.item? =
            c.disk.received ((names.map r.outputDirectory.join).zip (outs.map Text.toFile))) ∧
      ∀ before n after texts outs w' bytes, names = before ++ n :: after →
        List.Forall₂ (fun n text => c.disk.Holds (r.inputDirectory.join n) text) before texts →
        w.Passes texts outs w' →
        c.disk.readFile (r.inputDirectory.join n) = .ok bytes →
        (∀ s, bytes ≠ Text.toFile s) →
          (∃ fault, o.stop = some (.notText (r.inputDirectory.join n) fault)) ∧ o.status = 1 ∧
          o.run.report = r.report ∧
          o.run.disk.item? =
            c.disk.received ((before.map r.outputDirectory.join).zip (outs.map Text.toFile)) := by
  intro c o
  obtain ⟨b, v, w, d, p, hb, hv, hw, hd, -, hc⟩ := exists_of_collected hcollected
  obtain ⟨names, hfiles⟩ := Pattern.exists_files_eq_map d p r.inputDirectory
  obtain ⟨hstop, hrun⟩ := perform_all_of_collected hcollected
  have hcontinued : (c.perform [.expand, .finish]).NoWriteRefused := by
    rwa [Outcome.NoWriteRefused, hstop, hrun] at hwrites
  have hinput : c.inputDirectory = r.inputDirectory := by simp only [c, hc]
  have houtput : c.outputDirectory = r.outputDirectory := by simp only [c, hc]
  have hsources : c.sources = names.map c.inputDirectory.join := by
    rw [hinput, ← hfiles]
    exact congrArg sources hc
  have hnames : names.Pairwise fun m n =>
      c.disk.placeOf (c.outputDirectory.join m) ≠ c.disk.placeOf (c.inputDirectory.join n) := by
    have hapart : c.sources.Pairwise fun f g =>
      ∀ t ∈ c.target? f, c.disk.placeOf t ≠ c.disk.placeOf g := hapart
    rw [hsources] at hapart
    exact (List.pairwise_map.1 hapart).imp fun h => h _ (c.target?_join _)
  have hexpander : c.expander = some w := congrArg expander hc
  have hdisk : c.disk = d := congrArg disk hc
  refine ⟨v, w, names, hv, hw, hdisk ▸ hd, hinput ▸ hsources, fun n hn => ?_, fun hparents texts => ?_,
    fun texts outs w' hholds hpasses => ?_,
    fun before n after texts outs w' bytes hsplit hholds hpasses hread hnoText => ?_⟩
  · have hmem : r.inputDirectory.join n ∈ p.files d r.inputDirectory := by
      rw [hfiles]
      exact List.mem_map_of_mem hn
    rw [hdisk]
    obtain ⟨bytes, hread⟩ := Disk.exists_readFile_eq (Pattern.isFile_of_mem_files hmem)
    exact ⟨bytes, hread, Disk.exists_holds_iff hread⟩
  · obtain ⟨hstep, hvocabulary⟩ := Expander.inStep_of_new hw
    refine Expander.exists_passes ?_ texts
    rw [hstep.vocabulary, hvocabulary]
    rcases hparents with ⟨hnone, hpath⟩ | hparents
    · exact parentsNamed_of_loadVocabulary hnone hpath hv
    · exact hparents
  · rw [← hinput] at hholds
    obtain ⟨hends, hresult⟩ := perform_expand_of_holds hexpander ((congrArg verbosity hc).trans hb)
      hsources hholds hpasses hnames hcontinued
    rw [Outcome.status, hstop, hrun, ← houtput, hends]
    exact ⟨rfl, rfl, hresult⟩
  · rw [← hinput] at hholds hread ⊢
    rw [hsplit] at hsources hnames
    obtain ⟨fault, htext⟩ := Text.exists_ofFile_eq_error_iff.2 hnoText
    obtain ⟨hends, hreport, hitem⟩ := perform_expand_of_notText hexpander hsources hholds hpasses
      hread htext hnames hcontinued
    rw [Outcome.status, hstop, hrun, ← houtput, hends]
    exact ⟨⟨fault, rfl⟩, rfl, hreport.trans (by simp only [c, hc]), hitem⟩

/-- A run to look at, with two files, of which the second is a text or none. A line end of the first
one is two characters long, and one of the second is a carriage return. -/
def twoFiles (isText : Bool) : Run :=
  let bytes := if isText then Text.toFile "<b data-sd=headline>\rA</b>" else [0x3C, 0xFF]
  let disk : Disk :=
    { items := [(["in"], .directory),
        (["in", "a.html"], .file (Text.toFile "<p data-sd=Article>\r\n")),
        (["in", "b"], .directory), (["in", "b", "c.html"], .file bytes)] }
  .new .standard disk {} (.ofText "in") (.ofText "out")

/-- The expander that it makes. -/
def twoFilesExpander : Expander :=
  { Expander.minimal with
    vocabulary := .bundled
    engine := .new Expander.minimal.engine.renderer .bundled true }

/-- It makes no other expander. -/
lemma eq_twoFilesExpander {isText : Bool} (hv : (twoFiles isText).loadVocabulary.1 = .ok v)
    (hw : Expander.new (twoFiles isText).settings v (some (twoFiles isText).semantic)
      (twoFiles isText).suffixes (some !(twoFiles isText).disable) = .ok w) :
    v = .bundled ∧ w = twoFilesExpander := by
  obtain rfl : .bundled = v := Except.ok.inj hv
  exact ⟨rfl, Except.ok.inj (hw.symm.trans (Expander.new_standard .bundled))⟩

/-- What is collected for it. -/
lemma perform_collect_twoFiles (isText : Bool) :
    ((twoFiles isText).perform [.check, .collect]).stop = none ∧
      ((twoFiles isText).perform [.check, .collect]).run =
        { twoFiles isText with
          vocabulary := some .bundled
          expander := some twoFilesExpander
          disk := (twoFiles isText).disk.putAt ["out"] .directory
          ready := true
          sources := [["a.html"], ["b", "c.html"]].map (twoFiles isText).inputDirectory.join } := by
  have hcollected : ((twoFiles isText).perform [.check, .collect]).stop = none := by
    cases isText <;> decide +kernel
  obtain ⟨b, v, w, d, p, -, hv, hw, hd, hp, hc⟩ := exists_of_collected hcollected
  obtain ⟨rfl, rfl⟩ := eq_twoFilesExpander hv hw
  obtain rfl : (twoFiles isText).disk.putAt ["out"] .directory = d :=
    Except.ok.inj (by rw [← hd]; rfl)
  have hpattern : (twoFiles isText).selection.pattern? =
      .ok ⟨[.below, .wild (.ofText "*.html")], false⟩ := by
    cases isText <;> decide +kernel
  obtain rfl := Except.ok.inj (hpattern.symm.trans hp)
  have hfiles : Pattern.files ((twoFiles isText).disk.putAt ["out"] .directory)
      ⟨[.below, .wild (.ofText "*.html")], false⟩ (twoFiles isText).inputDirectory =
        [["a.html"], ["b", "c.html"]].map (twoFiles isText).inputDirectory.join := by
    have hfound : ((Pattern.select ((twoFiles isText).disk.putAt ["out"] .directory) false
        [.below, .wild (.ofText "*.html")] (twoFiles isText).inputDirectory).filter
          ((twoFiles isText).disk.putAt ["out"] .directory).isFile) =
        [["a.html"], ["b", "c.html"]].map (twoFiles isText).inputDirectory.join := by
      cases isText <;> decide +kernel
    have hinput : ((twoFiles isText).disk.putAt ["out"] .directory).isDirectory
        (twoFiles isText).inputDirectory = true := by
      cases isText <;> decide +kernel
    simp only [Pattern.files, hinput, if_true, hfound]
    refine List.mergeSort_of_pairwise ?_
    cases isText <;> decide +kernel
  exact ⟨hcollected, by rw [hc, hfiles]⟩

/-- It ends with its second file if that is no text; nothing is refused that is to be written. -/
lemma noWriteRefused_twoFiles (isText : Bool) :
    ((twoFiles isText).perform Stage.all).NoWriteRefused := by
  have hstop : ((twoFiles isText).perform Stage.all).stop =
      if isText then none
      else some (.notText (.ofText "in/b/c.html") ⟨.startByte, 1, [0xFF]⟩) := by
    obtain ⟨hcollected, hc⟩ := perform_collect_twoFiles isText
    rw [(perform_all_of_collected hcollected).1, hc]
    cases isText <;> decide +kernel
  intro p refusal h
  rw [hstop] at h
  split at h <;> simp at h

/-- What its first file holds. -/
lemma holds_twoFiles (isText : Bool) :
    ((twoFiles isText).perform [.check, .collect]).run.disk.Holds
      ((twoFiles isText).inputDirectory.join ["a.html"]) "<p data-sd=Article>\n" := by
  refine Disk.holds_iff.2 ⟨Text.toFile "<p data-sd=Article>\r\n", ?_, by decide +kernel⟩
  rw [(perform_collect_twoFiles isText).2]
  cases isText <;> decide +kernel

/-- The passes over its texts, the second one with the expander that the first one leaves. -/
lemma passes_twoFiles : ∃ w w',
    twoFilesExpander.perform (.expand "<p data-sd=Article>\n") = (.ok (.plain (.text
      (some "<p itemscope itemtype='https://schema.org/Article'>\n"))), w) ∧
    w.perform (.expand "<b data-sd=headline>\nA</b>") = (.ok (.plain (.text
      (some "<b itemprop='headline'>\nA</b>"))), w') := by
  refine ⟨(twoFilesExpander.expand "<p data-sd=Article>\n").2, _,
    Expander.perform_expand_eq_iff.2 ⟨by decide +kernel, Prod.ext ?_ rfl⟩,
    Expander.perform_expand_eq_iff.2 ⟨by decide +kernel, Prod.ext ?_ rfl⟩⟩
  · decide +kernel
  · decide +kernel

/-- Two texts are written, the second one with the type that the first one has left. A second file
that is no text leaves no trace, not even a directory. -/
theorem perform_all_twoFiles :
    let c := fun isText => ((twoFiles isText).perform [.check, .collect]).run
    let o := fun isText => (twoFiles isText).perform Stage.all
    let first := "<p itemscope itemtype='https://schema.org/Article'>\n"
    let second := "<b itemprop='headline'>\nA</b>"
    (∀ isText, ((twoFiles isText).perform [.check, .collect]).stop = none) ∧
      (∀ isText, (c isText).sources.Pairwise fun f g =>
        ∀ t ∈ (c isText).target? f, (c isText).disk.placeOf t ≠ (c isText).disk.placeOf g) ∧
      (∀ isText, (o isText).NoWriteRefused) ∧
      ((o true).status = 0 ∧
        (o true).run.report = some ⟨some true, some ["out/a.html", "out/b/c.html"]⟩ ∧
        (o true).run.disk.item? ["out", "a.html"] = some (.file (Text.toFile first)) ∧
        (o true).run.disk.item? ["out", "b", "c.html"] = some (.file (Text.toFile second))) ∧
      (o false).status = 1 ∧ (o false).run.report = none ∧
      (o false).run.disk.item? ["out", "a.html"] = some (.file (Text.toFile first)) ∧
      (o false).run.disk.item? ["out", "b"] = none := by
  intro c o first second
  have hcollected := fun isText => (perform_collect_twoFiles isText).1
  have hc := fun isText => (perform_collect_twoFiles isText).2
  have hapart : ∀ isText, (c isText).sources.Pairwise fun f g =>
      ∀ t ∈ (c isText).target? f, (c isText).disk.placeOf t ≠ (c isText).disk.placeOf g := by
    intro isText
    simp only [c, hc]
    cases isText <;> decide +kernel
  have hall := fun isText =>
    perform_all (twoFiles isText) (hcollected isText) (hapart isText) (noWriteRefused_twoFiles isText)
  have hnames : ∀ isText names, (c isText).sources =
      names.map (twoFiles isText).inputDirectory.join → [["a.html"], ["b", "c.html"]] = names := by
    intro isText names hsources
    have hjoin : Function.Injective (twoFiles isText).inputDirectory.join := fun m n h => by
      simpa [Path.join] using h
    simp only [c, hc] at hsources
    exact List.map_injective_iff.2 hjoin hsources
  obtain ⟨w₁, w₂, hfirst, hsecond⟩ := passes_twoFiles
  refine ⟨hcollected, hapart, noWriteRefused_twoFiles, ?_, ?_⟩
  · obtain ⟨v, w, names, hv, hw, -, hsources, -, -, htexts, -⟩ := hall true
    obtain ⟨rfl, rfl⟩ := eq_twoFilesExpander hv hw
    obtain rfl := hnames true names hsources
    have hholds : (c true).disk.Holds ((twoFiles true).inputDirectory.join ["b", "c.html"])
        "<b data-sd=headline>\nA</b>" := by
      refine Disk.holds_iff.2 ⟨Text.toFile "<b data-sd=headline>\rA</b>", ?_, by decide +kernel⟩
      simp only [c, hc]
      decide +kernel
    obtain ⟨-, hstatus, -, hreport, hitem⟩ := htexts _ _ _
      (.cons (holds_twoFiles true) (.cons hholds .nil)) (.cons hfirst (.cons hsecond .nil))
    refine ⟨hstatus, ?_, ?_, ?_⟩
    · rw [hreport]
      decide +kernel
    · rw [hitem, hc]
      decide +kernel
    · rw [hitem, hc]
      decide +kernel
  · obtain ⟨v, w, names, hv, hw, -, hsources, -, -, -, hnotText⟩ := hall false
    obtain ⟨rfl, rfl⟩ := eq_twoFilesExpander hv hw
    have hread : (c false).disk.readFile ((twoFiles false).inputDirectory.join ["b", "c.html"]) =
        .ok [0x3C, 0xFF] := by
      simp only [c, hc]
      decide +kernel
    have hnoText : ∀ s, [0x3C, 0xFF] ≠ Text.toFile s :=
      Text.exists_ofFile_eq_error_iff.1 ⟨⟨.startByte, 1, [0xFF]⟩, by decide +kernel⟩
    obtain ⟨-, hstatus, hreport, hitem⟩ := hnotText [["a.html"]] ["b", "c.html"] [] _ _ _ _
      (hnames false names hsources).symm (.cons (holds_twoFiles false) .nil) (.cons hfirst .nil)
      hread hnoText
    refine ⟨hstatus, hreport, ?_, ?_⟩
    · rw [hitem, hc]
      decide +kernel
    · rw [hitem, hc]
      decide +kernel

end Run

end SchemaMarkup
