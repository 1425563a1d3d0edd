import Mathlib
import Lector.Command.Run
import Lector.Proofs.Files.Frame

/-!
# What a run of the command does to the files

A run changes no files before its pipeline is ready. Then the inputs are processed in order up to
the first that fails, and each that is processed changes one location: the one that the name of its
output leads to. If the outputs have locations of their own, other than those of the inputs, then
every input is read as it was at the start, and the order of the inputs does not matter.

## Main definitions

* `Makes`: what an input is made into, and the name of its output
* `Processed`: inputs with their outputs are processed in order
* `Fails`: the ways in which an input fails to be processed
* `Apart`: outputs have locations of their own, other than those of the inputs

## Main results

* `Processed.get?_eq`: nothing but the outputs changes
* `Processed.makes`: outputs apart hold what their inputs made at the start
* `exists_processed_of_makes`: inputs with outputs apart can be processed in any order
* `run_frame`: what a run does, by the first thing that fails
-/

namespace Lector.Command

open Files (Location)

section Processing

variable (transform : Text → Except Error Text) (template : Text)

/-- What an input is made into, and the name of its output. -/
structure Makes (s : Files) (p : Text × Text) (result : Text) : Prop where
  transformed : ∃ t, s.readText p.1 = .ok t ∧ transform t = .ok result
  rendered : Output.render s.herePath template p.1 = .ok p.2

/-- Inputs with their outputs are processed in order. -/
inductive Processed : List (Text × Text) → Files → Files → Prop
  | nil {s : Files} : Processed [] s s
  | cons {s s₁ s' : Files} {p : Text × Text} {done : List (Text × Text)} {result : Text}
      (hp : Makes transform template s p result) (hwrite : s.write p.2 result = .ok s₁)
      (h : Processed done s₁ s') : Processed (p :: done) s s'

/-- The ways in which an input fails to be processed. -/
inductive Fails (s : Files) (input : Text) : Error → Prop
  | read {fault : IoFault} (h : s.readText input = .error fault) : Fails s input (.io input fault)
  | transform {t : Text} {e : Error} (hread : s.readText input = .ok t)
      (h : transform t = .error e) : Fails s input e
  | render {t result : Text} {e : Error} (hread : s.readText input = .ok t)
      (htransform : transform t = .ok result)
      (h : Output.render s.herePath template input = .error e) : Fails s input e
  | write {output result : Text} {fault : IoFault}
      (hmakes : Makes transform template s (input, output) result)
      (h : s.write output result = .error fault) : Fails s input (.io output fault)

end Processing

/-- The template of output names for some arguments. -/
def outputTemplate (a : Arguments) : Text := a.template.getD Output.defaultTemplate

/-- What is written out of the inputs that were processed. -/
def lines (done : List (Text × Text)) : Text := done.flatMap fun p => doneText p.1 p.2

/-- Outputs have locations of their own, other than those of the inputs. -/
structure Apart (s : Files) (done : List (Text × Text)) : Prop where
  outputs : done.Pairwise fun p q => ¬ s.Meet p.2 q.2
  inputs : ∀ p ∈ done, ∀ q ∈ done, ¬ s.Meet p.2 q.1

variable {transform : Text → Except Error Text} {template input output result result' : Text}
  {inputs : List Text} {s s' : Files} {l : Location} {p : Text × Text}
  {done done' : List (Text × Text)} {e : Error}

/-! ## One input -/

theorem process_of_makes (h : Makes transform template s (input, output) result)
    (hwrite : s.write output result = .ok s') :
    Output.process s transform template input = .ok (output, s') := by
  obtain ⟨⟨t, ht, hresult⟩, hrender⟩ := h
  simp only at ht hrender
  simp [Output.process, ht, hresult, hrender, hwrite, bind, Except.bind]

/-- An input is processed, or it fails in one of the ways. -/
theorem process_cases (s : Files) (transform : Text → Except Error Text) (template input : Text) :
    (∃ output result s', Makes transform template s (input, output) result ∧
      s.write output result = .ok s') ∨
    ∃ e, Fails transform template s input e ∧
      Output.process s transform template input = .error e := by
  cases hread : s.readText input with
  | error fault => exact Or.inr ⟨_, .read hread, by simp [Output.process, hread]⟩
  | ok t =>
    cases htransform : transform t with
    | error e =>
      refine Or.inr ⟨_, .transform hread htransform, ?_⟩
      simp [Output.process, hread, htransform, bind, Except.bind]
    | ok result =>
      cases hrender : Output.render s.herePath template input with
      | error e =>
        refine Or.inr ⟨_, .render hread htransform hrender, ?_⟩
        simp [Output.process, hread, htransform, hrender, bind, Except.bind]
      | ok output =>
        have hmakes : Makes transform template s (input, output) result :=
          ⟨⟨t, hread, htransform⟩, hrender⟩
        cases hwrite : s.write output result with
        | ok s' => exact Or.inl ⟨output, result, s', hmakes, hwrite⟩
        | error fault =>
          refine Or.inr ⟨_, .write hmakes hwrite, ?_⟩
          simp [Output.process, hread, htransform, hrender, hwrite, bind, Except.bind]

theorem Makes.unique (h : Makes transform template s p result)
    (h' : Makes transform template s p result') : result = result' := by
  obtain ⟨t, ht, hresult⟩ := h.transformed
  obtain ⟨t', ht', hresult'⟩ := h'.transformed
  obtain rfl : t = t' := Except.ok.inj (ht.symm.trans ht')
  exact Except.ok.inj (hresult.symm.trans hresult')

/-- A write elsewhere does not change what an input is made into. -/
theorem makes_set_iff (hs : s.IsTree) {q : Text} (h : s.Takes q l) {b : ByteArray}
    (hmeet : ¬ s.Meet q p.1) :
    Makes transform template (s.set l (.file b)) p result ↔
      Makes transform template s p result := by
  have hread (t : Text) : (s.set l (.file b)).readText p.1 = .ok t ↔ s.readText p.1 = .ok t :=
    h.readText_iff hs hmeet
  constructor
  · rintro ⟨⟨t, ht, hresult⟩, hrender⟩
    exact ⟨⟨t, (hread t).mp ht, hresult⟩, hrender⟩
  · rintro ⟨⟨t, ht, hresult⟩, hrender⟩
    exact ⟨⟨t, (hread t).mpr ht, hresult⟩, hrender⟩

/-! ## Inputs in order -/

/-- What is processed decides what comes of it. -/
theorem Processed.unique {s'' : Files} (h : Processed transform template done s s')
    (h' : Processed transform template done' s s'')
    (hinputs : done.map Prod.fst = done'.map Prod.fst) : done = done' ∧ s' = s'' := by
  induction h generalizing done' with
  | nil =>
    cases h' with
    | nil => exact ⟨rfl, rfl⟩
    | cons _ _ _ => cases hinputs
  | @cons s s₁ s' p done result hp hwrite _ ih =>
    cases h' with
    | nil => cases hinputs
    | @cons _ s₂ _ q done' result' hq hwrite' h' =>
      obtain ⟨hinput, hrest⟩ := List.cons.inj hinputs
      have houtput : p.2 = q.2 :=
        Except.ok.inj (hp.rendered.symm.trans (hinput ▸ hq.rendered))
      obtain rfl : p = q := Prod.ext hinput houtput
      obtain rfl := hp.unique hq
      obtain rfl : s₁ = s₂ := Except.ok.inj (hwrite.symm.trans hwrite')
      obtain ⟨rfl, rfl⟩ := ih h' hrest
      exact ⟨rfl, rfl⟩

/-- Inputs that were processed in order are processed by the loop. -/
theorem Processed.processAll_append (h : Processed transform template done s s')
    (inputs : List Text) : processAll transform template (done.map Prod.fst ++ inputs) s =
      (lines done ++ (processAll transform template inputs s').1,
        (processAll transform template inputs s').2) := by
  induction h with
  | nil => simp [lines]
  | cons hp hwrite _ ih =>
    rw [List.map_cons, List.cons_append, processAll, process_of_makes hp hwrite]
    simp [ih, lines]

/-- The inputs are processed in order up to the first that fails. -/
theorem exists_processed (transform : Text → Except Error Text) (template : Text)
    (inputs : List Text) (s : Files) :
    ∃ done left after, inputs = done.map Prod.fst ++ left ∧
      Processed transform template done s after ∧
      ∀ input rest, left = input :: rest → ∃ e, Fails transform template after input e ∧
        Output.process after transform template input = .error e := by
  induction inputs generalizing s with
  | nil => exact ⟨[], [], s, rfl, .nil, by simp⟩
  | cons input inputs ih =>
    rcases process_cases s transform template input with
      ⟨output, result, s₁, hmakes, hwrite⟩ | hfails
    · obtain ⟨done, left, after, rfl, hdone, hleft⟩ := ih s₁
      exact ⟨(input, output) :: done, left, after, rfl, .cons hmakes hwrite hdone, hleft⟩
    · refine ⟨[], input :: inputs, s, rfl, .nil, ?_⟩
      rintro _ _ ⟨⟩
      exact hfails

/-- Processing keeps the tree and where paths lead. -/
theorem Processed.sameWays (h : Processed transform template done s s') (hs : s.IsTree) :
    s.SameWays s' ∧ s'.IsTree := by
  induction h with
  | nil => exact ⟨.refl _, hs⟩
  | cons hp hwrite _ ih =>
    obtain ⟨l, htakes, rfl⟩ := Files.write_eq_ok_iff.mp hwrite
    obtain ⟨hways, htree⟩ := ih (htakes.isTree_set hs)
    exact ⟨(htakes.sameWays hs).trans hways, htree⟩

/-- **Nothing but the outputs changes.** -/
theorem Processed.get?_eq (h : Processed transform template done s s') (hs : s.IsTree)
    (hl : ∀ p ∈ done, s.locate true p.2 ≠ .ok l) : s'.get? l = s.get? l := by
  induction h with
  | nil => rfl
  | @cons s _ _ p _ _ hp hwrite _ ih =>
    obtain ⟨hlp, hl⟩ := List.forall_mem_cons.mp hl
    obtain ⟨m, htakes, rfl⟩ := Files.write_eq_ok_iff.mp hwrite
    have hne : l ≠ m := by
      rintro rfl
      exact hlp htakes.leads
    rw [ih (htakes.isTree_set hs), htakes.get?_set, if_neg hne]
    intro q hq h
    exact hl q hq ((htakes.sameWays hs).locate_iff.mpr h)

/-! ## Outputs apart -/

theorem Apart.tail (h : Apart s (p :: done)) : Apart s done where
  outputs := (List.pairwise_cons.mp h.outputs).2
  inputs q hq r hr := h.inputs q (List.mem_cons_of_mem _ hq) r (List.mem_cons_of_mem _ hr)

theorem Apart.congr (h : Apart s done) (hways : s.SameWays s') : Apart s' done where
  outputs := h.outputs.imp fun hmeet => hways.meet_iff.not.mp hmeet
  inputs q hq r hr := hways.meet_iff.not.mp (h.inputs q hq r hr)

theorem Apart.perm (h : Apart s done) (hperm : done.Perm done') : Apart s done' where
  outputs := by
    refine (hperm.pairwise_iff ?_).mp h.outputs
    rintro q r hmeet ⟨l, hr, hq⟩
    exact hmeet ⟨l, hq, hr⟩
  inputs q hq r hr := h.inputs q (hperm.mem_iff.mpr hq) r (hperm.mem_iff.mpr hr)

/-- **Outputs apart hold what their inputs made at the start.** -/
theorem Processed.makes (h : Processed transform template done s s') (hs : s.IsTree)
    (ha : Apart s done) : ∀ p ∈ done, ∃ result l, Makes transform template s p result ∧
      s.Takes p.2 l ∧ s'.get? l = some (.file (Files.encode result)) := by
  induction h with
  | nil => simp
  | @cons s s₁ s' p done result hp hwrite hdone ih =>
    obtain ⟨l, htakes, rfl⟩ := Files.write_eq_ok_iff.mp hwrite
    have hways := htakes.sameWays (b := Files.encode result) hs
    have htree := htakes.isTree_set (b := Files.encode result) hs
    have hother {q : Text × Text} (hq : q ∈ done) : ¬ s.Meet p.2 q.2 :=
      (List.pairwise_cons.mp ha.outputs).1 q hq
    refine List.forall_mem_cons.mpr ⟨⟨result, l, hp, htakes, ?_⟩, ?_⟩
    · rw [hdone.get?_eq htree, htakes.get?_set, if_pos rfl]
      intro q hq hl
      refine hother hq ⟨l, Files.locate_of_creating htakes.leads, ?_⟩
      exact hways.locate_iff.mpr (Files.locate_of_creating hl)
    · intro q hq
      obtain ⟨r, m, hmakes, hm, hget⟩ := ih htree (ha.tail.congr hways) q hq
      have hinput : ¬ s.Meet p.2 q.1 := ha.inputs p (by simp) q (List.mem_cons_of_mem _ hq)
      exact ⟨r, m, (makes_set_iff hs htakes hinput).mp hmakes, hways.takes_iff.mpr hm, hget⟩

/-- **Inputs with outputs apart can be processed in any order.** -/
theorem exists_processed_of_makes (hs : s.IsTree) (ha : Apart s done)
    (h : ∀ p ∈ done, ∃ result l, Makes transform template s p result ∧ s.Takes p.2 l) :
    ∃ s', Processed transform template done s s' := by
  induction done generalizing s with
  | nil => exact ⟨s, .nil⟩
  | cons p done ih =>
    obtain ⟨⟨result, l, hp, htakes⟩, hdone⟩ := List.forall_mem_cons.mp h
    have hways := htakes.sameWays (b := Files.encode result) hs
    obtain ⟨s', hs'⟩ := ih (htakes.isTree_set hs) (ha.tail.congr hways) fun q hq => by
      obtain ⟨r, m, hmakes, hm⟩ := hdone q hq
      have hinput : ¬ s.Meet p.2 q.1 := ha.inputs p (by simp) q (List.mem_cons_of_mem _ hq)
      exact ⟨r, m, (makes_set_iff hs htakes hinput).mpr hmakes, hways.takes_iff.mp hm⟩
    exact ⟨s', .cons hp (Files.write_eq_ok_iff.mpr ⟨l, htakes, rfl⟩) hs'⟩

/-- Inputs with outputs apart, processed in two orders, leave the same files. -/
theorem Processed.same {s'' : Files} (h : Processed transform template done s s')
    (h' : Processed transform template done' s s'') (hperm : done.Perm done') (hs : s.IsTree)
    (ha : Apart s done) : s''.Same s' := by
  refine ⟨(h'.sameWays hs).1.here.symm.trans (h.sameWays hs).1.here, fun l => ?_⟩
  by_cases hl : ∀ p ∈ done, s.locate true p.2 ≠ .ok l
  · rw [h.get?_eq hs hl, h'.get?_eq hs fun p hp => hl p (hperm.mem_iff.mpr hp)]
  · simp only [not_forall, not_not] at hl
    obtain ⟨p, hp, hl⟩ := hl
    obtain ⟨r, m, hr, hm, hget⟩ := h.makes hs ha p hp
    obtain ⟨r', m', hr', hm', hget'⟩ := h'.makes hs (ha.perm hperm) p (hperm.mem_iff.mp hp)
    obtain rfl : m = l := Except.ok.inj (hm.leads.symm.trans hl)
    obtain rfl : m' = m := Except.ok.inj (hm'.leads.symm.trans hl)
    obtain rfl : r = r' := hr.unique hr'
    rw [hget, hget']

/-- Inputs that were processed with outputs apart are processed in any other order too. -/
theorem Processed.exists_perm (h : Processed transform template done s s') (hs : s.IsTree)
    (ha : Apart s done) {inputs : List Text} (hperm : inputs.Perm (done.map Prod.fst)) :
    ∃ done' s'', inputs = done'.map Prod.fst ∧ done.Perm done' ∧
      Processed transform template done' s s'' := by
  have hmakes := h.makes hs ha
  let pair (input : Text) : Text × Text :=
    (input, (Output.render s.herePath template input).toOption.getD [])
  have hpair : done = (done.map Prod.fst).map pair := by
    rw [List.map_map]
    refine (List.map_id done).symm.trans (List.map_congr_left fun p hp => ?_)
    obtain ⟨_, _, hp, -⟩ := hmakes p hp
    simp [pair, hp.rendered, Except.toOption]
  have hdone : done.Perm (inputs.map pair) := by
    rw [hpair]
    exact hperm.symm.map pair
  -- whatever the order, every input makes what it made at the start
  obtain ⟨s'', hs''⟩ := exists_processed_of_makes hs (ha.perm hdone) fun p hp => by
    obtain ⟨r, l, hr, hl, -⟩ := hmakes p (hdone.mem_iff.mpr hp)
    exact ⟨r, l, hr, hl⟩
  exact ⟨inputs.map pair, s'', by simp [pair, Function.comp_def], hdone, hs''⟩

/-! ## Runs -/

section Runs

variable {vars : Variables} {files : Files} {words : List Text} {a : Arguments}
  {pipeline : Pipeline}

theorem runArguments_of_error (h : prepare vars files a = .error e) :
    runArguments vars files a = ⟨1, [], errorText e, files⟩ := by
  simp [runArguments, h]

/-- A run that begins by processing some inputs. -/
theorem runArguments_of_processed {after : Files} {left : List Text}
    (h : prepare vars files a = .ok pipeline) (hinputs : a.inputs = done.map Prod.fst ++ left)
    (hdone : Processed pipeline.run (outputTemplate a) done files after) :
    (left = [] → runArguments vars files a = ⟨0, lines done, [], after⟩) ∧
      ∀ input rest e, left = input :: rest →
        Output.process after pipeline.run (outputTemplate a) input = .error e →
        runArguments vars files a = ⟨1, lines done, errorText e, after⟩ := by
  have hall := hdone.processAll_append left
  rw [← hinputs, outputTemplate] at hall
  constructor
  · rintro rfl
    simp [runArguments, h, hall, processAll]
  · rintro input rest e rfl hprocess
    rw [outputTemplate] at hprocess
    simp [runArguments, h, hall, processAll, hprocess]

/-- With directives that are asked for, the pipeline does not depend on the inputs. -/
theorem prepare_congr (hdirectives : a.directives ≠ []) (inputs : List Text) :
    prepare vars files { a with inputs := inputs } = prepare vars files a := by
  simp [prepare, startRegistry, dataDirectory, references, hdirectives]

/-- **What a run does, by the first thing that fails.** If discovery fails or the pipeline cannot be
built, no file changes. Otherwise some inputs are processed, a line is written out for each, and
nothing but their outputs changes; what is left over starts with an input that fails in the files as
they are then, and the run ends with its error. If nothing is left over the run succeeds. Then, with
outputs apart, each output holds what its input made in the files as they were at the start, and
with directives that are asked for all orders of the inputs leave the same files. -/
theorem run_frame (vars : Variables) (hwords : Request.read words = .run a)
    (htree : files.IsTree) :
    (∀ e, startRegistry vars files a = .error e →
      run vars files words = ⟨1, [], errorText e, files⟩) ∧
    (∀ registry e, startRegistry vars files a = .ok registry →
      (Pipeline.build files (references a) (.ofRegistry registry (0 < a.verbosity) 0)).1 =
        .error e →
      run vars files words = ⟨1, [], errorText e, files⟩) ∧
    ∀ registry pipeline, startRegistry vars files a = .ok registry →
      (Pipeline.build files (references a) (.ofRegistry registry (0 < a.verbosity) 0)).1 =
        .ok pipeline →
      ∃ done left after, a.inputs = done.map Prod.fst ++ left ∧
        Processed pipeline.run (outputTemplate a) done files after ∧
        (after.here = files.here ∧ ∀ l, (∀ p ∈ done, files.locate true p.2 ≠ .ok l) →
          after.get? l = files.get? l) ∧
        (∀ input rest, left = input :: rest →
          ∃ e, Fails pipeline.run (outputTemplate a) after input e ∧
            run vars files words = ⟨1, lines done, errorText e, after⟩) ∧
        (left = [] → run vars files words = ⟨0, lines done, [], after⟩ ∧
          (Apart files done →
            (∀ p ∈ done, ∃ result, Makes pipeline.run (outputTemplate a) files p result ∧
              after.readText p.2 = .ok result) ∧
            ∀ words' inputs, a.directives ≠ [] → inputs.Perm a.inputs →
              Request.read words' = .run { a with inputs := inputs } →
              (run vars files words').code = 0 ∧ (run vars files words').files.Same after)) := by
  have hrun : run vars files words = runArguments vars files a := by
    rw [run, hwords]
  refine ⟨?_, ?_, ?_⟩
  · intro e he
    rw [hrun]
    exact runArguments_of_error (by rw [prepare, he]; rfl)
  · intro registry e hregistry he
    rw [hrun]
    exact runArguments_of_error (by rw [prepare, hregistry]; exact he)
  · intro registry pipeline hregistry hbuild
    have hprepare : prepare vars files a = .ok pipeline := by
      rw [prepare, hregistry]
      exact hbuild
    obtain ⟨done, left, after, hinputs, hdone, hleft⟩ :=
      exists_processed pipeline.run (outputTemplate a) a.inputs files
    obtain ⟨hcomplete, hstopped⟩ := runArguments_of_processed hprepare hinputs hdone
    have hways := (hdone.sameWays htree).1
    refine ⟨done, left, after, hinputs, hdone, ?_, ?_, ?_⟩
    · exact ⟨hways.here.symm, fun l hl => hdone.get?_eq htree hl⟩
    · intro input rest hrest
      obtain ⟨e, hfails, hprocess⟩ := hleft input rest hrest
      exact ⟨e, hfails, hrun.trans (hstopped input rest e hrest hprocess)⟩
    · -- no input fails; what is said of outputs apart is said of the files at the start
      intro hnil
      refine ⟨hrun.trans (hcomplete hnil), fun ha => ⟨?_, ?_⟩⟩
      · intro p hp
        obtain ⟨result, l, hmakes, htakes, hget⟩ := hdone.makes htree ha p hp
        have hl := hways.locate_iff.mp (Files.locate_of_creating htakes.leads)
        exact ⟨result, hmakes, Files.readText_of_get? hl hget⟩
      · intro words' inputs hdirectives hperm hwords'
        rw [hnil, List.append_nil] at hinputs
        rw [hinputs] at hperm
        obtain ⟨done', after', hinputs', hperm', hdone'⟩ := hdone.exists_perm htree ha hperm
        obtain ⟨hcomplete', -⟩ := runArguments_of_processed
          ((prepare_congr hdirectives inputs).trans hprepare)
          (hinputs'.trans (List.append_nil _).symm) hdone'
        rw [run, hwords']
        simp only [hcomplete' rfl, true_and]
        exact hdone.same hdone' hperm' htree ha

/-- Two inputs in one directory. -/
def twoInputs : Files :=
  ((Files.mk Table.empty []).set [['a']] (.file (Files.encode ['\\', '&']))).set [['b']]
    (.file (Files.encode ['v']))

/-- The same with their outputs. -/
def twoOutputs : Files :=
  (twoInputs.set ["a.out".toList] (.file (Files.encode ['&']))).set ["b.out".toList]
    (.file (Files.encode ['v']))

/-- Words that ask for inputs to be converted from LaTeX. -/
def convert (inputs : List Text) : List Text :=
  "-d".toList :: Latex.aliasName :: "--".toList :: inputs

/-- What the words ask for. -/
def conversion (inputs : List Text) : Arguments :=
  { inputs := inputs, directives := [Latex.aliasName] }

/-- The pipeline of the conversion. -/
def converter : Pipeline := [⟨Latex.aliasName, .function 1 Latex.toText⟩]

theorem makes_twoInputs : Makes converter.run Output.defaultTemplate twoInputs
    (['a'], "a.out".toList) ['&'] :=
  ⟨⟨['\\', '&'], Files.readText_of_get? (l := [['a']]) (by cbv) (by cbv), by cbv⟩, by cbv⟩

theorem processed_twoInputs : Processed converter.run Output.defaultTemplate
    [(['a'], "a.out".toList), (['b'], "b.out".toList)] twoInputs twoOutputs := by
  have hsecond : Makes converter.run Output.defaultTemplate
      (twoInputs.set ["a.out".toList] (.file (Files.encode ['&']))) (['b'], "b.out".toList) ['v'] :=
    ⟨⟨['v'], Files.readText_of_get? (l := [['b']]) (by cbv) (by cbv), by cbv⟩, by cbv⟩
  exact .cons makes_twoInputs (by cbv) (.cons hsecond (by cbv) .nil)

theorem apart_twoInputs :
    Apart twoInputs [(['a'], "a.out".toList), (['b'], "b.out".toList)] := by
  have ha : twoInputs.locate false ['a'] = .ok [['a']] := by cbv
  have hb : twoInputs.locate false ['b'] = .ok [['b']] := by cbv
  have ha' : twoInputs.locate false "a.out".toList = .ok ["a.out".toList] := by cbv
  have hb' : twoInputs.locate false "b.out".toList = .ok ["b.out".toList] := by cbv
  have hne : ["a.out".toList] ≠ ["b.out".toList] := by decide
  refine ⟨by simpa using Files.not_meet ha' hb' hne, ?_⟩
  simp only [List.forall_mem_cons, List.not_mem_nil, false_implies, implies_true, and_true]
  exact ⟨⟨Files.not_meet ha' ha (by decide), Files.not_meet ha' hb (by decide)⟩,
    Files.not_meet hb' ha (by decide), Files.not_meet hb' hb (by decide)⟩

/-- Two inputs, of which the first one is changed. Their order does not matter. -/
theorem run_frame_two_inputs : twoInputs.IsTree ∧
    run Table.empty twoInputs (convert [['a'], ['b']]) =
      ⟨0, "a -> a.out\nb -> b.out\n".toList, [], twoOutputs⟩ ∧
    twoOutputs.readText "a.out".toList = .ok ['&'] ∧
    (run Table.empty twoInputs (convert [['b'], ['a']])).code = 0 ∧
    (run Table.empty twoInputs (convert [['b'], ['a']])).files.Same twoOutputs := by
  have htree : twoInputs.IsTree :=
    ((Files.isTree_empty []).set (l := []) rfl (by cbv) _).set (l := []) rfl (by cbv) _
  have hwords : Request.read (convert [['a'], ['b']]) = .run (conversion [['a'], ['b']]) := by cbv
  have hwords' : Request.read (convert [['b'], ['a']]) = .run (conversion [['b'], ['a']]) := by cbv
  have hregistry : startRegistry Table.empty twoInputs (conversion [['a'], ['b']]) =
      .ok (Registry.addBuiltins 0 Table.empty) := by
    have hdirectory :
        dataDirectory Table.empty twoInputs (conversion [['a'], ['b']]) = none := by cbv
    simp [startRegistry, hdirectory]
  obtain ⟨done, left, after, hinputs, hdone, -, hstopped, hcomplete⟩ :=
    (run_frame Table.empty hwords htree).2.2 _ converter hregistry rfl
  have hprepare : prepare Table.empty twoInputs (conversion [['a'], ['b']]) = .ok converter := by
    rw [prepare, hregistry]
    rfl
  have hinputs₀ : (conversion [['a'], ['b']]).inputs = [['a'], ['b']] ++ [] := rfl
  have hrun := (runArguments_of_processed hprepare hinputs₀ processed_twoInputs).1 rfl
  have hleft : left = [] := by
    cases hleft : left with
    | nil => rfl
    | cons input rest =>
      obtain ⟨e, -, h⟩ := hstopped input rest hleft
      rw [run, hwords] at h
      cases hrun.symm.trans h
  rw [hleft, List.append_nil] at hinputs
  obtain ⟨rfl, rfl⟩ := processed_twoInputs.unique hdone hinputs
  obtain ⟨hrun, happly⟩ := hcomplete hleft
  obtain ⟨hresults, horder⟩ := happly apart_twoInputs
  obtain ⟨hcode, hsame⟩ := horder _ [['b'], ['a']] (by decide) (.swap _ _ _) hwords'
  refine ⟨htree, hrun, ?_, hcode, hsame⟩
  obtain ⟨result, hmakes, hread⟩ := hresults _ List.mem_cons_self
  rwa [hmakes.unique makes_twoInputs] at hread

end Runs

end Lector.Command
