import Mathlib.Data.List.Forall2
import SchemaMarkup.Proofs.Engine.Expand
import SchemaMarkup.Proofs.Site.Disk
import SchemaMarkup.Proofs.Text.Utf8
import SchemaMarkup.Site.Run

set_option autoImplicit false

/-!
# The sources of a run

Sources are expanded in order with one expander, so that each is expanded from the type that the one
before it has left. What is written for a source is written at the path that leads from the output
directory as the path of the source leads from the input directory. A source is read before anything
is made for it, so that one that is no text leaves no trace.

## Main definitions

* `SchemaMarkup.Expander.Passes` — texts that are expanded in order.
* `SchemaMarkup.Disk.Holds` — the text of a file.
* `SchemaMarkup.Run.Outcome.NoWriteRefused` — no directory and no file is refused for a source.

## Main results

* `SchemaMarkup.Disk.exists_holds_iff` — a file holds one text, or it is no text.
* `SchemaMarkup.Run.expandSource_of_notText` — a source that is no text.
* `SchemaMarkup.Run.exists_of_expandSource` — what is written for a source.
* `SchemaMarkup.Run.exists_of_expandSources` — what is written for sources.
-/

namespace SchemaMarkup

/-! ## Passes -/

namespace Expander

/-- Texts are expanded in order, each by the expander that the one before it leaves. -/
inductive Passes : Expander → List String → List String → Expander → Prop where
  | nil {w : Expander} : Passes w [] [] w
  | cons {w w' w'' : Expander} {text out : String} {texts outs : List String}
      (h : w.perform (.expand text) = (.ok (.plain (.text (some out))), w'))
      (hrest : Passes w' texts outs w'') : Passes w (text :: texts) (out :: outs) w''

variable {w w' : Expander} {text out : String}

/-- What a pass comes to. -/
lemma perform_expand_eq_iff :
    w.perform (.expand text) = (.ok (.plain (.text (some out))), w') ↔
      w.expandObstacle? text = none ∧ w.expand text = (out, w') := by
  constructor
  · intro h
    have hnone := expandObstacle?_of_perform h
    simp only [perform, fault?, hnone, Option.map_none, answer, next, Prod.mk.injEq, Except.ok.injEq,
      Reply.plain.injEq, Answer.text.injEq, Option.some.injEq] at h
    exact ⟨hnone, Prod.ext h.1 h.2⟩
  · rintro ⟨hnone, hexpand⟩
    simp only [perform, fault?, hnone, Option.map_none, answer, next, hexpand]

/-- Any texts can be expanded if the parents of all types are named. -/
lemma exists_passes (h : w.engine.vocabulary.ParentsNamed) (texts : List String) :
    ∃ outs w', w.Passes texts outs w' := by
  induction texts generalizing w with
  | nil => exact ⟨[], w, .nil⟩
  | cons text texts ih =>
    have hpass := perform_expand (expandObstacle?_eq_none h text)
    obtain ⟨outs, w', hrest⟩ := ih (w := { w with engine := (w.engine.expand (w.pieces text)).2 })
      (by simpa using h)
    exact ⟨_, w', .cons hpass hrest⟩

end Expander

/-! ## The texts of files -/

namespace Disk

/-- The file at the path has the bytes of a text, which becomes `text` when its line ends are
joined. -/
def Holds (d : Disk) (p : Path) (text : String) : Prop :=
  ∃ s, d.readFile p = .ok (Text.toFile s) ∧ Text.LineEndsJoined s.toList text.toList

variable {d d' : Disk} {p : Path} {text : String} {bytes : List UInt8}

/-- A file that stays holds its text. -/
lemma Keeps.holds (h : d.Keeps d') (hholds : d.Holds p text)
    (hstays : ∀ i, d.item? (d.placeOf p) = some i → d'.item? (d.placeOf p) = some i) :
    d'.Holds p text := by
  obtain ⟨s, hread, htext⟩ := hholds
  exact ⟨s, h.readFile hread hstays, htext⟩

/-- A file holds the text that is read from it. -/
lemma holds_iff :
    d.Holds p text ↔ ∃ bytes, d.readFile p = .ok bytes ∧ Text.ofFile bytes = .ok text := by
  constructor
  · rintro ⟨s, hread, hjoined⟩
    exact ⟨_, hread, Text.ofFile_eq_ok_iff.2 ⟨s, rfl, hjoined⟩⟩
  · rintro ⟨bytes, hread, htext⟩
    obtain ⟨s, rfl, hjoined⟩ := Text.ofFile_eq_ok_iff.1 htext
    exact ⟨s, hread, hjoined⟩

/-- The text of a file has no carriage return. -/
lemma Holds.not_mem (h : d.Holds p text) : '\r' ∉ text.toList := by
  obtain ⟨s, -, hjoined⟩ := h
  exact hjoined.not_mem

/-- **A file holds one text**, in which no carriage return is left, or it is no text. -/
theorem exists_holds_iff (hread : d.readFile p = .ok bytes) :
    (∃ text, '\r' ∉ text.toList ∧ ∀ text', d.Holds p text' ↔ text' = text) ∨
      ∀ s, bytes ≠ Text.toFile s := by
  cases htext : Text.ofFile bytes with
  | error fault => exact .inr (Text.exists_ofFile_eq_error_iff.1 ⟨fault, htext⟩)
  | ok text =>
    refine .inl ⟨text, (holds_iff.2 ⟨bytes, hread, htext⟩).not_mem, fun text' => ?_⟩
    simp only [holds_iff, hread, Except.ok.injEq, exists_eq_left', htext]
    exact eq_comm

end Disk

namespace Run

/-! ## One stage after another -/

namespace Outcome

variable {o : Outcome} {next : Run → Outcome} {stop : Stop}

lemma andThen_of_none (h : o.stop = none) (next : Run → Outcome) :
    o.andThen next = { next o.run with notes := o.notes ++ (next o.run).notes } := by
  rw [andThen, h]

lemma andThen_of_some (h : o.stop = some stop) (next : Run → Outcome) : o.andThen next = o := by
  rw [andThen, h]

/-- Where the second stage has not stopped, neither has the first. -/
lemma of_andThen_eq_none (h : (o.andThen next).stop = none) :
    o.stop = none ∧ (next o.run).stop = none ∧ (o.andThen next).run = (next o.run).run := by
  cases ho : o.stop with
  | none =>
    rw [andThen_of_none ho] at h ⊢
    exact ⟨rfl, h, rfl⟩
  | some stop =>
    rw [andThen_of_some ho, ho] at h
    simp at h

lemma andThen_assoc (o : Outcome) (next next' : Run → Outcome) :
    (o.andThen next).andThen next' = o.andThen fun r => (next r).andThen next' := by
  cases h : o.stop with
  | some stop => rw [andThen_of_some h, andThen_of_some h, andThen_of_some h]
  | none =>
    rw [andThen_of_none h, andThen_of_none h]
    cases h' : (next o.run).stop with
    | some stop =>
      rw [andThen_of_some h', andThen_of_some]
      exact h'
    | none =>
      rw [andThen_of_none h', andThen_of_none]
      · simp
      · exact h'

lemma start_andThen (r : Run) (next : Run → Outcome) :
    ({ run := r : Outcome }.andThen next) = next r := by
  simp [andThen]

lemma andThen_start (o : Outcome) : (o.andThen fun r => { run := r }) = o := by
  cases h : o.stop with
  | none => rw [andThen_of_none h, ← h, List.append_nil]
  | some stop => rw [andThen_of_some h]

/-- No directory and no file is refused for a source: where the disk refuses anything for a source,
it refuses to read it. -/
def NoWriteRefused (o : Outcome) : Prop :=
  ∀ p refusal, o.stop = some (.notWritten p refusal) → o.run.disk.readFile p = .error refusal

lemma NoWriteRefused.of_andThen (h : (o.andThen next).NoWriteRefused) : o.NoWriteRefused := by
  intro p refusal hstop
  rw [andThen_of_some hstop] at h
  exact h p refusal hstop

lemma NoWriteRefused.of_run (h : (o.andThen next).NoWriteRefused) (ho : o.stop = none) :
    (next o.run).NoWriteRefused := by
  rw [andThen_of_none ho] at h
  exact h

end Outcome

variable {r : Run} {f t : Path} {w w' : Expander} {text out : String} {bytes : List UInt8}

/-- Sources are expanded part by part. -/
lemma expandSources_append (r : Run) (fs fs' : List Path) :
    r.expandSources (fs ++ fs') = (r.expandSources fs).andThen fun r => r.expandSources fs' := by
  induction fs generalizing r with
  | nil => simp only [List.nil_append, expandSources, Outcome.start_andThen]
  | cons f fs ih => simp only [List.cons_append, expandSources, ih, Outcome.andThen_assoc]

/-! ## Sources -/

/-- A source that is no text ends the run before anything is made for it. -/
theorem expandSource_of_notText {fault : Text.Utf8.Fault} (htarget : r.target? f = some t)
    (hread : r.disk.readFile f = .ok bytes) (htext : Text.ofFile bytes = .error fault) :
    r.expandSource f = { run := r, stop := some (.notText f fault) } := by
  simp only [expandSource, htarget, hread, htext]

/-- **What is written for a source**: its text, expanded by the expander that there is, at its
target. -/
theorem exists_of_expandSource (hexpander : r.expander = some w) (htarget : r.target? f = some t)
    (hholds : r.disk.Holds f text)
    (hpass : w.perform (.expand text) = (.ok (.plain (.text (some out))), w'))
    (hwrites : (r.expandSource f).NoWriteRefused) :
    ∃ d, (r.expandSource f).stop = none ∧
      (r.expandSource f).run = { r with disk := d, expander := some w' } ∧ r.disk.Keeps d ∧
      (∀ q i, q ≠ r.disk.placeOf t → r.disk.item? q = some i → d.item? q = some i) ∧
      d.item? = r.disk.receive r.disk.item? (t, Text.toFile out) := by
  obtain ⟨bytes, hread, htext⟩ := Disk.holds_iff.1 hholds
  obtain ⟨hnone, hexpand⟩ := Expander.perform_expand_eq_iff.1 hpass
  simp only [expandSource, htarget, hread, htext, Outcome.andThen, expandText, hexpander, hnone,
    hexpand] at hwrites ⊢
  cases hmake : r.disk.makeDirectories t.parent with
  | error refusal =>
    simp only [hmake] at hwrites
    have hrefused := hwrites f refusal rfl
    simp [hread] at hrefused
  | ok d =>
    cases hwrite : d.writeFile t (Text.toFile out) with
    | error refusal =>
      simp only [hmake, hwrite] at hwrites
      have hrefused := hwrites f refusal rfl
      have hkept := (Disk.keeps_of_makeDirectories hmake).readFile hread
        fun i => (Disk.item?_of_makeDirectories hmake).2.1 _ i
      simp [hkept] at hrefused
    | ok d' =>
      simp only [hwrite]
      exact ⟨d', trivial, rfl, Disk.item?_of_receive hmake hwrite⟩

/-- The target of a source. -/
lemma target?_join (r : Run) (name : List String) :
    r.target? (r.inputDirectory.join name) = some (r.outputDirectory.join name) := by
  rw [target?, Path.relativeTo?_join]
  rfl

variable {names : List (List String)} {texts outs : List String}

/-- **What is written for sources**: the passes over their texts, each at its target. No target may
be the place of a source that comes later.

**Proof sketch.** Induction on the sources. A source that comes later is still read as before, since
its directories stay and nothing is written at its place. -/
theorem exists_of_expandSources (hexpander : r.expander = some w)
    (hholds : List.Forall₂ (fun n text => r.disk.Holds (r.inputDirectory.join n) text) names texts)
    (hpasses : w.Passes texts outs w')
    (hapart : names.Pairwise fun m n =>
      r.disk.placeOf (r.outputDirectory.join m) ≠ r.disk.placeOf (r.inputDirectory.join n))
    (hwrites : (r.expandSources (names.map r.inputDirectory.join)).NoWriteRefused) :
    let o := r.expandSources (names.map r.inputDirectory.join)
    ∃ d, o.stop = none ∧ o.run = { r with disk := d, expander := some w' } ∧ r.disk.Keeps d ∧
      (∀ q i, (∀ n ∈ names, q ≠ r.disk.placeOf (r.outputDirectory.join n)) →
        r.disk.item? q = some i → d.item? q = some i) ∧
      d.item? = r.disk.received ((names.map r.outputDirectory.join).zip (outs.map Text.toFile)) := by
  induction names generalizing r w texts outs with
  | nil =>
    cases hholds
    cases hpasses
    refine ⟨r.disk, rfl, ?_, .refl _, fun q i _ h => h, rfl⟩
    rw [← hexpander]
    rfl
  | cons n names ih =>
    cases hholds with
    | @cons _ text _ texts hhold hholds =>
      cases hpasses with
      | @cons _ w₁ _ _ out _ outs hpass hpasses =>
        obtain ⟨hfirst, hapart⟩ := List.pairwise_cons.1 hapart
        rw [List.map_cons, expandSources] at hwrites ⊢
        obtain ⟨d, hstop, hrun, hkeeps, hstays, hitem⟩ :=
          exists_of_expandSource hexpander (r.target?_join n) hhold hpass hwrites.of_andThen
        have hwrites' := hwrites.of_run hstop
        rw [hrun] at hwrites'
        have hholds' : List.Forall₂ (fun n text => d.Holds (r.inputDirectory.join n) text)
            names texts := by
          refine List.forall₂_iff_zip.2 ⟨hholds.length_eq, fun {m text'} hmem => ?_⟩
          have hm := (List.of_mem_zip hmem).1
          exact hkeeps.holds ((List.forall₂_iff_zip.1 hholds).2 hmem)
            fun i => hstays _ i (hfirst m hm).symm
        obtain ⟨d', hstop', hrun', hkeeps', hstays', hitem'⟩ :=
          ih (r := { r with disk := d, expander := some w₁ }) rfl hholds' hpasses (by
            simpa only [hkeeps.placeOf] using hapart) hwrites'
        rw [Outcome.andThen_of_none hstop, hrun]
        refine ⟨d', hstop', hrun', hkeeps.trans hkeeps', fun q i hq h => ?_, ?_⟩
        · refine hstays' q i (fun m hm => ?_) (hstays q i (hq n List.mem_cons_self) h)
          rw [hkeeps.placeOf]
          exact hq m (List.mem_cons_of_mem _ hm)
        · rw [hitem', Disk.received, Disk.receive_congr hkeeps.workingDirectory, hitem]
          rfl

end Run

end SchemaMarkup
