import Lector.Command.Run
import Lector.Proofs.Directive.Coherence
import Lector.Proofs.Directive.Discovery
import Lector.Proofs.Rule.Soundness
import Lector.Proofs.Source.Entries

/-!
# Where rules come from

A rule is made directly or of a row, or it is read from a text, a document or a file. From there it
is handed on: into registries and resolvers, from one of these to another, and into the
transformations that references lead to. Whatever is called, no rule comes up that was neither there
before nor handed in nor read from a file, and what is read becomes a rule in one way only. So all
rules that can be had are sound.

## Main definitions

* `Rule.Row.Yields`: a row becomes a rule
* `Source.Loads`: a rule is read from a file
* `Registry.HasRule`, `Resolver.HasRule`: a rule is in a registry or in a resolver
* `Rule.Operation.Obtained`: the rules that can be had

## Main results

* `Source.yields_of_loads`: a rule that is read from a file is that of a row
* `Registry.hasRule_of_discover`, `Resolver.hasRule_of_step`, `Resolver.hasRule_of_run`,
  `Pipeline.hasRule_of_build`: where the rules come from that are there after a call
* `Command.loads_of_prepare`: the rules of a run of the command are read from files
* `Rule.Operation.sound_of_obtained`: all rules that can be had are sound
-/

namespace Lector

open Rule (Row RowFault Kind Defaults Options Operation Template)
open Files (Found)

/-! ## Rules that are read -/

/-- A row becomes a rule. -/
def Rule.Row.Yields (op : Operation) : Prop := ∃ row d, Row.build row d = .ok op

namespace Source

variable {op : Operation} {source t path : Text} {layout : Layout} {d : Defaults}

/-- A rule is read from a file. -/
def Loads (op : Operation) : Prop :=
  ∃ files path tag name rules, load files path tag name = .ok rules ∧ op ∈ rules.operations

theorem yields_of_buildAt {n : Nat} {row : Row} (h : buildAt source d n row = .ok op) :
    Row.Yields op := by
  unfold buildAt at h
  split at h
  next hbuild =>
    cases h
    exact ⟨row, d, hbuild⟩
  next => cases h

theorem yields_of_readDelimited {options : Options} {ops : List Operation}
    (h : readDelimited layout source t = .ok (options, ops)) (hop : op ∈ ops) : Row.Yields op := by
  unfold readDelimited at h
  dsimp only at h
  split at h
  next => cases h
  next rs _ =>
    obtain ⟨ops', hops, hpair⟩ := map_eq_ok_iff.mp h
    cases hpair
    obtain ⟨⟨n, row⟩, -, hrow⟩ := exists_of_mem_mapM hops hop
    exact yields_of_buildAt hrow

theorem yields_of_buildRows {n : Nat} {rows : List (Except RowFault Row)} {ops : List Operation}
    (h : buildRows source d n rows = .ok ops) (hop : op ∈ ops) : Row.Yields op := by
  rw [buildRows_eq_pass, pass] at h
  obtain ⟨⟨row, n⟩, -, hrow⟩ := exists_of_mem_mapM h hop
  have hread : rowOperation d row = .ok op := mapError_eq_ok_iff.mp hrow
  cases row with
  | error fault => cases hread
  | ok row => exact ⟨row, d, hread⟩

theorem yields_of_readDocument {overrides options : Options} {v : Value} {ops : List Operation}
    (h : readDocument source overrides v = .ok (options, ops)) (hop : op ∈ ops) :
    Row.Yields op := by
  rcases readDocument_cases source overrides v with
    ⟨fault, hfault⟩ | ⟨o, substitutions, rows, -, -, hread⟩
  · cases hfault.symm.trans h
  · obtain ⟨ops', hops, hpair⟩ := map_eq_ok_iff.mp (hread.symm.trans h)
    cases hpair
    exact yields_of_buildRows hops hop

theorem yields_of_readText {format : Format} {options : Options} {ops : List Operation}
    (h : readText format source t = .ok (options, ops)) (hop : op ∈ ops) : Row.Yields op := by
  unfold readText at h
  split at h
  next => exact yields_of_readDelimited h hop
  next =>
    split at h
    next => exact yields_of_readDocument h hop
    next => cases h
  next =>
    split at h
    next => exact yields_of_readDocument h hop
    next => cases h

/-- **A rule that is read from a file is that of a row.** -/
theorem yields_of_loads (h : Loads op) : Row.Yields op := by
  obtain ⟨files, path, tag, name, rules, hload, hop⟩ := h
  unfold load at hload
  split at hload
  next => cases hload
  next =>
    split at hload
    next => cases hload
    next =>
      obtain ⟨⟨options, ops⟩, hread, rfl⟩ := map_eq_ok_iff.mp hload
      exact yields_of_readText hread hop

end Source

/-! ## Rules that are handed on -/

/-- The rules of a transformation. -/
def Transformation.rules : Transformation → List Operation
  | .substitution _ _ ops _ => ops
  | .function _ _ => []

/-- The rules of a directive. -/
def Directive.rules : Directive → List Operation
  | .operations ops => ops
  | .function transformation => transformation.rules

/-- The rules of a reference. -/
def Reference.rules : Reference → List Operation
  | .named _ => []
  | .operations ops => ops
  | .function transformation => transformation.rules

/-- The rules that an act hands in. -/
def Act.rules : Act → List Operation
  | .register _ directive => directive.rules
  | .resolve _ reference => reference.rules
  | .note _ => []

/-- The rules that are seen of an act. -/
def Answer.rules : Answer Transformation → List Operation
  | .replaced (some directive) => directive.rules
  | .resolved (.ok transformation) => transformation.rules
  | .replaced none | .resolved (.error _) | .silent => []

/-- A rule is in a registry. -/
def Registry.HasRule (r : Registry) (op : Operation) : Prop :=
  ∃ key d, r.get? key = some d ∧ op ∈ d.rules

/-- A rule is in a resolver: in its registry, or in a transformation that it keeps. -/
def Resolver.HasRule (r : Resolver) (op : Operation) : Prop :=
  r.registry.HasRule op ∨ ∃ key t, r.cache.get? key = some t ∧ op ∈ t.rules

namespace Registry

variable {files : Files} {r r' : Registry} {path directory key name : Text} {op : Operation}
  {d : Directive}

theorem hasRule_of_insert (h : HasRule (r.insert key d) op) : r.HasRule op ∨ op ∈ d.rules := by
  obtain ⟨k, d', hget, hop⟩ := h
  rw [Table.get?_insert] at hget
  split at hget
  next =>
    cases hget
    exact Or.inr hop
  next => exact Or.inl ⟨k, d', hget, hop⟩

theorem hasRule_of_addFile {rules : Source.Rules} (h : (addFile path rules r).HasRule op) :
    r.HasRule op ∨ op ∈ rules.operations := by
  obtain ⟨k, d, hget, hop⟩ := h
  rw [get?_addFile] at hget
  split at hget
  next =>
    cases hget
    exact Or.inr hop
  next => exact Or.inl ⟨k, d, hget, hop⟩

theorem hasRule_of_registerFile (h : registerFile files path r = .ok (name, r'))
    (hop : r'.HasRule op) : r.HasRule op ∨ Source.Loads op := by
  unfold registerFile at h
  split at h
  next => cases h
  next rules hload =>
    cases h
    exact (hasRule_of_addFile hop).imp_right fun hmem =>
      ⟨files, path, none, none, rules, hload, hmem⟩

theorem hasRule_of_registerFound {found : List Found} {count : Nat}
    (h : (registerFound files found count r).2.HasRule op) : r.HasRule op ∨ Source.Loads op := by
  induction found generalizing count r with
  | nil => exact Or.inl h
  | cons item found ih =>
    cases item with
    | fault path fault => exact Or.inl h
    | directory path => exact ih h
    | loop path => exact ih h
    | file path =>
      rw [registerFound] at h
      split at h
      next =>
        split at h
        next => exact Or.inl h
        next name r' hregister =>
          rcases ih h with hheld | hload
          · exact hasRule_of_registerFile hregister hheld
          · exact Or.inr hload
      next => exact ih h

theorem hasRule_of_discover (h : (discover files directory r).2.HasRule op) :
    r.HasRule op ∨ Source.Loads op := by
  unfold discover at h
  split at h
  next => exact Or.inl h
  next => exact hasRule_of_registerFound h

theorem hasRule_of_ensure {loaded : Option Text} (h : ensure files key r = .ok (loaded, r'))
    (hop : r'.HasRule op) : r.HasRule op ∨ Source.Loads op := by
  rcases ensure_eq_ok h with ⟨-, -, rfl⟩ | ⟨rules, hload, -, rfl⟩
  · exact Or.inl hop
  · exact (hasRule_of_addFile hop).imp_right fun hmem =>
      ⟨files, key, none, none, rules, hload, hmem⟩

end Registry

namespace Resolver

variable {files : Files} {key : Text} {r r' : Resolver} {t : Transformation} {act : Act}
  {acts : List Act} {op : Operation} {d : Directive}

/-- What is made of a directive has its rules. -/
@[simp] theorem rules_wrap (r : Resolver) (key : Text) (d : Directive) :
    (r.wrap key d).rules = d.rules := by
  cases d <;> rfl

theorem hasRule_of_register (h : (r.register key d).HasRule op) : r.HasRule op ∨ op ∈ d.rules := by
  rcases h with h | ⟨k, t, hget, hop⟩
  · exact (Registry.hasRule_of_insert h).imp_left Or.inl
  · simp only [register, Table.get?_erase] at hget
    split at hget
    next => cases hget
    next => exact Or.inl (Or.inr ⟨k, t, hget, hop⟩)

/-- Resolving a name brings nothing up but what is read from a file. -/
theorem hasRule_of_resolveNamed (h : resolveNamed files key r = .ok (t, r'))
    (hop : r'.HasRule op ∨ op ∈ t.rules) : r.HasRule op ∨ Source.Loads op := by
  rcases resolveNamed_eq_ok h with ⟨hk, rfl⟩ | ⟨loaded, registry, d, -, he, hd, rfl, rfl⟩
  · exact Or.inl (hop.elim id fun hmem => Or.inr ⟨key, t, hk, hmem⟩)
  · have hregistry (hheld : registry.HasRule op) : r.HasRule op ∨ Source.Loads op :=
      (Registry.hasRule_of_ensure he hheld).imp_left Or.inl
    have hmade (hmem : op ∈ (r.wrap key d).rules) : r.HasRule op ∨ Source.Loads op :=
      hregistry ⟨key, d, hd, by rwa [rules_wrap] at hmem⟩
    rcases hop with (hheld | ⟨k, u, hget, hmem⟩) | hmem
    · exact hregistry hheld
    · rcases get?_keep hget with ⟨-, rfl⟩ | ⟨-, -, hbefore⟩
      · exact hmade hmem
      · exact Or.inl (Or.inr ⟨k, u, hbefore, hmem⟩)
    · exact hmade hmem

theorem hasRule_of_resolve {reference : Reference} (h : resolve files reference r = .ok (t, r'))
    (hop : r'.HasRule op ∨ op ∈ t.rules) : r.HasRule op ∨ op ∈ reference.rules ∨ Source.Loads op := by
  cases reference with
  | named key => exact (hasRule_of_resolveNamed h hop).imp_right Or.inr
  | operations ops =>
    cases h
    exact hop.imp_right Or.inl
  | function f =>
    cases h
    exact hop.imp_right Or.inl

/-- **A rule that is in a resolver after an act, or that is seen of the act, was there before, or was
handed in, or is read from a file.** -/
theorem hasRule_of_step (h : (r.step act).2.HasRule op ∨ op ∈ (r.step act).1.rules) :
    r.HasRule op ∨ op ∈ act.rules ∨ Source.Loads op := by
  cases act with
  | note on => exact h.elim Or.inl fun hop => absurd hop List.not_mem_nil
  | register key d =>
    rcases h with h | hop
    · exact (hasRule_of_register h).imp_right Or.inl
    · simp only [step] at hop
      cases hget : r.registry.get? key with
      | none =>
        rw [hget] at hop
        cases hop
      | some previous =>
        rw [hget] at hop
        exact Or.inl (Or.inl ⟨key, previous, hget, hop⟩)
  | resolve files reference =>
    simp only [step] at h
    cases hr : resolve files reference r with
    | error e =>
      rw [hr] at h
      exact h.elim Or.inl fun hop => absurd hop List.not_mem_nil
    | ok p =>
      rw [hr] at h
      exact hasRule_of_resolve hr h

/-- The same for acts, one after another. -/
theorem hasRule_of_run
    (h : (r.run acts).2.HasRule op ∨ ∃ answer ∈ (r.run acts).1, op ∈ answer.rules) :
    r.HasRule op ∨ (∃ act ∈ acts, op ∈ act.rules) ∨ Source.Loads op := by
  induction acts generalizing r with
  | nil =>
    rcases h with hheld | ⟨answer, hanswer, -⟩
    · exact Or.inl hheld
    · cases hanswer
  | cons act acts ih =>
    have hfirst (h : (r.step act).2.HasRule op ∨ op ∈ (r.step act).1.rules) :
        r.HasRule op ∨ (∃ a ∈ act :: acts, op ∈ a.rules) ∨ Source.Loads op :=
      (hasRule_of_step h).imp_right (Or.imp_left fun hop => ⟨act, List.mem_cons_self, hop⟩)
    have hrest (h : ((r.step act).2.run acts).2.HasRule op ∨
        ∃ answer ∈ ((r.step act).2.run acts).1, op ∈ answer.rules) :
        r.HasRule op ∨ (∃ a ∈ act :: acts, op ∈ a.rules) ∨ Source.Loads op := by
      rcases ih h with hheld | ⟨a, ha, hop⟩ | hload
      · exact hfirst (Or.inl hheld)
      · exact Or.inr (Or.inl ⟨a, List.mem_cons_of_mem act ha, hop⟩)
      · exact Or.inr (Or.inr hload)
    rcases h with hheld | ⟨answer, hanswer, hop⟩
    · exact hrest (Or.inl hheld)
    · rcases List.mem_cons.mp hanswer with rfl | hanswer
      · exact hfirst (Or.inr hop)
      · exact hrest (Or.inr ⟨answer, hanswer, hop⟩)

end Resolver

/-! ## Runs of the command -/

/-- The rules of a pipeline were in the resolver, or come with the references, or are read from
files. -/
theorem Pipeline.hasRule_of_build {files : Files} {references : List Reference} {r r' : Resolver}
    {p : Pipeline} (h : build files references r = (.ok p, r')) {stage : Stage} (hstage : stage ∈ p)
    {op : Operation} (hop : op ∈ stage.transformation.rules) :
    r.HasRule op ∨ (∃ reference ∈ references, op ∈ reference.rules) ∨ Source.Loads op := by
  induction references generalizing r p with
  | nil =>
    cases h
    cases hstage
  | cons reference references ih =>
    rw [build] at h
    cases hr : r.resolve files reference with
    | error e =>
      rw [hr] at h
      cases h
    | ok resolved =>
      obtain ⟨t, next⟩ := resolved
      rw [hr] at h
      dsimp only at h
      have hfirst (h : next.HasRule op ∨ op ∈ t.rules) : r.HasRule op ∨
          (∃ ref ∈ reference :: references, op ∈ ref.rules) ∨ Source.Loads op :=
        (Resolver.hasRule_of_resolve hr h).imp_right
          (Or.imp_left fun hin => ⟨reference, List.mem_cons_self, hin⟩)
      cases hb : build files references next with
      | mk outcome last =>
        rw [hb] at h
        cases outcome with
        | error e => cases h
        | ok rest =>
          cases h
          rcases List.mem_cons.mp hstage with rfl | hrest
          · exact hfirst (Or.inr hop)
          · rcases ih hb hrest with hheld | ⟨ref, href, hin⟩ | hload
            · exact hfirst (Or.inl hheld)
            · exact Or.inr (Or.inl ⟨ref, List.mem_cons_of_mem reference href, hin⟩)
            · exact Or.inr (Or.inr hload)

namespace Command

variable {vars : Variables} {files : Files} {a : Arguments} {op : Operation}

/-- The directives that are built in have no rules. -/
theorem not_hasRule_builtins (op : Operation) :
    ¬ (Registry.addBuiltins 0 Table.empty).HasRule op := by
  intro h
  rcases Registry.hasRule_of_insert h with h | hop
  · rcases Registry.hasRule_of_insert h with ⟨key, d, hget, -⟩ | hop
    · cases hget
    · cases hop
  · cases hop

theorem loads_of_startRegistry {registry : Registry}
    (h : startRegistry vars files a = .ok registry) (hop : registry.HasRule op) :
    Source.Loads op := by
  unfold startRegistry at h
  dsimp only at h
  split at h
  next =>
    cases h
    exact absurd hop (not_hasRule_builtins op)
  next directory _ =>
    split at h
    next => cases h
    next found _ hfound =>
      cases h
      have hregistry := congrArg Prod.snd hfound
      dsimp only at hregistry
      rw [← hregistry] at hop
      exact (Registry.hasRule_of_discover hop).resolve_left (not_hasRule_builtins op)

/-- The references of a run are names, and bring no rules along. -/
theorem rules_of_references {reference : Reference} (h : reference ∈ references a) :
    reference.rules = [] := by
  unfold references at h
  split at h
  next =>
    obtain rfl := List.mem_singleton.mp h
    rfl
  next =>
    obtain ⟨name, -, rfl⟩ := List.mem_map.mp h
    rfl

/-- **All rules that a run of the command goes through are read from files.** -/
theorem loads_of_prepare {p : Pipeline} (h : prepare vars files a = .ok p) {stage : Stage}
    (hstage : stage ∈ p) (hop : op ∈ stage.transformation.rules) : Source.Loads op := by
  unfold prepare at h
  cases hregistry : startRegistry vars files a with
  | error e =>
    rw [hregistry] at h
    cases h
  | ok registry =>
    rw [hregistry] at h
    have hbuild : Pipeline.build files (references a) (.ofRegistry registry (0 < a.verbosity) 0) =
        (.ok p, _) := Prod.ext h rfl
    rcases Pipeline.hasRule_of_build hbuild hstage hop with
      (hheld | ⟨_, _, hget, -⟩) | ⟨reference, hreference, hin⟩ | hload
    · exact loads_of_startRegistry hregistry hheld
    · cases hget
    · rw [rules_of_references hreference] at hin
      cases hin
    · exact hload

end Command

/-! ## Rules that can be had -/

namespace Rule.Operation

variable {op : Operation}

/-- The rules that can be had. -/
inductive Obtained : Operation → Prop
  /-- A rule is made of a search pattern, a replacement, a kind and a comment. -/
  | made {search replacement : Text} {kind : Kind} {comment : Option Text} {op : Operation}
      (h : make search replacement kind comment = .ok op) : Obtained op
  /-- A rule is made of a row, however the row has come about. -/
  | built {row : Row} {d : Defaults} {op : Operation} (h : row.build d = .ok op) : Obtained op
  | delimited {layout : Source.Layout} {source t : Text} {rules : Source.Rules} {op : Operation}
      (h : Source.parseDelimited layout source t = .ok rules) (hop : op ∈ rules.operations) :
      Obtained op
  | mapping {source : Text} {d : Defaults} {entries : List (Text × Value)} {ops : List Operation}
      {op : Operation} (h : Source.parseMapping source d entries = .ok ops) (hop : op ∈ ops) :
      Obtained op
  | document {source : Text} {overrides : Options} {v : Value} {rules : Source.Rules}
      {op : Operation} (h : Source.parseDocument source overrides v = .ok rules)
      (hop : op ∈ rules.operations) : Obtained op
  | loaded {files : Files} {path : Text} {tag name : Option Text} {rules : Source.Rules}
      {op : Operation} (h : Source.load files path tag name = .ok rules)
      (hop : op ∈ rules.operations) : Obtained op
  /-- A rule is in a registry of such rules after a file has been registered. -/
  | registered {files : Files} {path name : Text} {r r' : Registry} {op : Operation}
      (hr : ∀ op, r.HasRule op → Obtained op) (h : r.registerFile files path = .ok (name, r'))
      (hop : r'.HasRule op) : Obtained op
  /-- A rule is in a registry of such rules after a directory has been searched for files, even if
  that has failed. -/
  | discovered {files : Files} {directory : Text} {r : Registry} {op : Operation}
      (hr : ∀ op, r.HasRule op → Obtained op) (hop : (r.discover files directory).2.HasRule op) :
      Obtained op
  /-- A rule is in a registry of such rules after it has been made sure of a reference. -/
  | ensured {files : Files} {key : Text} {loaded : Option Text} {r r' : Registry} {op : Operation}
      (hr : ∀ op, r.HasRule op → Obtained op) (h : r.ensure files key = .ok (loaded, r'))
      (hop : r'.HasRule op) : Obtained op
  /-- A rule is in a resolver of such rules after acts that hand in such rules, or is seen of one of
  them. -/
  | acted {r : Resolver} {acts : List Act} {op : Operation} (hr : ∀ op, r.HasRule op → Obtained op)
      (hacts : ∀ act ∈ acts, ∀ op ∈ act.rules, Obtained op)
      (hop : (r.run acts).2.HasRule op ∨ ∃ answer ∈ (r.run acts).1, op ∈ answer.rules) : Obtained op
  /-- A rule is in a stage of a pipeline that such a resolver builds of references to such rules. -/
  | staged {files : Files} {references : List Reference} {r r' : Resolver} {p : Pipeline}
      {stage : Stage} {op : Operation} (hr : ∀ op, r.HasRule op → Obtained op)
      (hreferences : ∀ reference ∈ references, ∀ op ∈ reference.rules, Obtained op)
      (h : Pipeline.build files references r = (.ok p, r')) (hstage : stage ∈ p)
      (hop : op ∈ stage.transformation.rules) : Obtained op
  /-- A rule is in a stage of the pipeline of a run of the command. -/
  | prepared {vars : Command.Variables} {files : Files} {a : Command.Arguments} {p : Pipeline}
      {stage : Stage} {op : Operation} (h : Command.prepare vars files a = .ok p)
      (hstage : stage ∈ p) (hop : op ∈ stage.transformation.rules) : Obtained op

/-- What becomes of a row is sound. -/
theorem sound_of_yields (h : Row.Yields op) : op.Sound := by
  obtain ⟨row, d, hbuild⟩ := h
  exact sound_of_make hbuild

theorem sound_of_loads (h : Source.Loads op) : op.Sound := sound_of_yields (Source.yields_of_loads h)

/-- Every way in which a rule can be had leads back to rules that are made, read or handed in. -/
theorem Obtained.sound (h : op.Obtained) : op.Sound := by
  induction h with
  | made h => exact sound_of_make h
  | built h => exact sound_of_make h
  | delimited h hop =>
    obtain ⟨⟨options, ops⟩, hread, rfl⟩ := Source.map_eq_ok_iff.mp h
    exact sound_of_yields (Source.yields_of_readDelimited hread hop)
  | mapping h hop => exact sound_of_yields (Source.yields_of_buildRows h hop)
  | document h hop =>
    obtain ⟨⟨options, ops⟩, hread, rfl⟩ := Source.map_eq_ok_iff.mp h
    exact sound_of_yields (Source.yields_of_readDocument hread hop)
  | loaded h hop => exact sound_of_loads ⟨_, _, _, _, _, h, hop⟩
  | registered _ h hop ih => exact (Registry.hasRule_of_registerFile h hop).elim (ih _) sound_of_loads
  | discovered _ hop ih => exact (Registry.hasRule_of_discover hop).elim (ih _) sound_of_loads
  | ensured _ h hop ih => exact (Registry.hasRule_of_ensure h hop).elim (ih _) sound_of_loads
  | acted _ _ hop ihr ihacts =>
    rcases Resolver.hasRule_of_run hop with hheld | ⟨act, hact, hin⟩ | hload
    · exact ihr _ hheld
    · exact ihacts act hact _ hin
    · exact sound_of_loads hload
  | staged _ _ h hstage hop ihr ihreferences =>
    rcases Pipeline.hasRule_of_build h hstage hop with hheld | ⟨reference, href, hin⟩ | hload
    · exact ihr _ hheld
    · exact ihreferences reference href _ hin
    · exact sound_of_loads hload
  | prepared h hstage hop => exact sound_of_loads (Command.loads_of_prepare h hstage hop)

/-- **All rules that can be had are sound.** A rule has something to look for, be it a literal or a
regular expression. It is made of what is written of it and of nothing else, so that its kind is the
one that was asked for. It has a matcher and a template just if that is a regular expression. The
matcher is that of the search pattern, and the template is read from the replacement in one pass. It
refers only to groups of the pattern, has no empty text and no two texts side by side, and no match
of the pattern lacks a place for a group that the expansion looks for. -/
theorem sound_of_obtained (h : op.Obtained) :
    op.search ≠ [] ∧
      (∀ s r k c, make s r k c = .ok op ↔
        s = op.search ∧ r = op.replacement ∧ k = op.kind ∧ c = op.comment) ∧
      (op.kind = .regex ↔ ∃ matcher template, op.action = .regex matcher template) ∧
      ∀ matcher template, op.action = .regex matcher template →
        (Pattern.Matcher.compile? op.search = some matcher ∧
          Template.scan matcher.groups ([], []) op.replacement = .ok template) ∧
        (∀ i, .group i ∈ template → i < matcher.groups.count) ∧
        .text [] ∉ template ∧ (∀ t u, ¬ [.text t, .text u] <:+: template) ∧
        ∀ t, ∀ m ∈ (matcher.run t).found,
          template.expand? t m = some (template.expand t m) := by
  have hsound := h.sound
  refine ⟨hsound.nonempty, fun s r k c => hsound.make_eq_ok_iff, hsound.compiled,
    fun matcher template haction => ?_⟩
  have hfits := hsound.fits matcher template haction
  exact ⟨hsound.read_eq haction, hfits.within, hfits.nonempty, hfits.apart,
    fun t m hm => hsound.expand?_eq_some haction hm⟩

/-- The matcher of a pattern that is one group. -/
def oneGroup : Pattern.Matcher :=
  .ofNode (.group 1 none (.chars (CharSet.singleton 'a'))) []

/-- A template with references of two forms, and a character by its number in front of another. -/
theorem sound_of_row :
    let row : Row := { search := some "(a)".toList, replacement := some "<\\1\\g<0>\\101>".toList }
    let template : Template := [.text ['<'], .group 1, .group 0, .text ['A', '>']]
    ∃ op, row.build {} = .ok op ∧ op.action = .regex oneGroup template ∧ op.search ≠ [] ∧
      (∀ i, .group i ∈ template → i < oneGroup.groups.count) ∧
      ∀ t, ∀ m ∈ (oneGroup.run t).found, template.expand? t m = some (template.expand t m) := by
  intro row template
  let op : Operation := ⟨"(a)".toList, "<\\1\\g<0>\\101>".toList, none, .regex oneGroup template⟩
  have hcompile : Pattern.Matcher.compile? "(a)".toList = some oneGroup := rfl
  have hparse : Template.parse oneGroup.groups "<\\1\\g<0>\\101>".toList = .ok template := by
    decide +kernel
  have hbuild : row.build {} = .ok op := by
    change make "(a)".toList "<\\1\\g<0>\\101>".toList .regex none = .ok op
    rw [make, makeAction, hcompile]
    dsimp only
    rw [hparse]
    rfl
  obtain ⟨hsearch, -, -, hall⟩ := sound_of_obtained (.built hbuild)
  obtain ⟨-, hwithin, -, -, hexpand⟩ := hall oneGroup template rfl
  exact ⟨op, hbuild, rfl, hsearch, hwithin, hexpand⟩

end Rule.Operation

end Lector
