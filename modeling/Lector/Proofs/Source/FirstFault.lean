import Lector.Proofs.Source.RuleLines

/-!
# The line that an error is about

Delimited text is passed over twice: first the row of every line is read, and only then do the rows
become operations. A line whose row cannot be read is therefore reported before any line whose rule
is refused, even if that line stands higher up. Where no such line hides the first bad one, errors
come in the order of the lines.

## Main definitions

* `Error.Names`: an error says in which source and at which row it arose
* `isMisread`, `isBad`: a line whose row cannot be read, and a line that cannot become an operation
* `firstLineWith?`: the first line with a property, and its number
* `reportedLine?`: the line that is reported

## Main results

* `parseDelimited_eq_error_iff`: the reading of a text reports one line
* `parseDelimited_reports_first_iff`: when that is the first bad line
-/

namespace Lector

/-- An error says that it arose in a source at a row: in its fields if it is about a row, and at the
end of what is said of it if it is about a rule. -/
def Error.Names (source : Text) (n : Nat) : Error → Prop
  | .row s m _ => s = source ∧ m = n
  | .substitution pattern fault place => ∃ said,
      (Error.substitution pattern fault place).message =
        said ++ (" (in '".toList ++ source ++ "', row ".toList ++ Text.ofNat n ++ [')'])
  | _ => False

theorem Error.names_of_place? {e : Error} {source : Text} {n : Nat}
    (h : e.place? = some (source, n)) : e.Names source n := by
  cases e with
  | row s m fault =>
    cases h
    exact ⟨rfl, rfl⟩
  | substitution pattern fault place =>
    have hplace : place = some (source, n) := h
    rw [hplace]
    unfold Names
    exact ⟨"Substitution error for pattern '".toList ++ pattern ++ "': ".toList ++ fault.message,
      by unfold message; dsimp only⟩
  | _ => cases h

namespace Source

open Rule (Options Operation Defaults)

/-! ## Bad lines -/

/-- A line without the white space around it holds a rule whose row cannot be read. -/
def isMisread (layout : Layout) (line : Text) : Bool :=
  holdsRule line && fails (lineRow layout line)

/-- A line without the white space around it holds a rule but cannot become an operation. -/
def isBad (layout : Layout) (d : Defaults) (line : Text) : Bool :=
  holdsRule line && fails (lineOperation layout d line)

/-- The first line of a text with a property, without the white space around it, and its number. -/
def firstLineWith? (p : Text → Bool) (t : Text) : Option (Text × Nat) :=
  ((trimmedLines t).zipIdx 1).find? fun line => p line.1

/-- The line that is reported: the first one that is misread, or else the first bad one. -/
def reportedLine? (layout : Layout) (d : Defaults) (t : Text) : Option (Text × Nat) :=
  (firstLineWith? (isMisread layout) t).or (firstLineWith? (isBad layout d) t)

/-- An error is the one of a line with its number: why the line cannot become an operation, with the
place of the line. -/
def IsErrorOf (layout : Layout) (source : Text) (d : Defaults) (line : Text × Nat) (e : Error) :
    Prop :=
  ∃ cause, lineOperation layout d line.1 = .error cause ∧ e = cause.atRow source line.2

variable {layout : Layout} {source t line : Text} {d : Defaults} {e : Error} {n : Nat}
  {p q : Text → Bool}

theorem isBad_of_isMisread (d : Defaults) (h : isMisread layout line = true) :
    isBad layout d line = true := by
  obtain ⟨hrule, hfails⟩ := (Bool.and_eq_true_iff ..).mp h
  obtain ⟨e, he⟩ := fails_iff.mp hfails
  exact (Bool.and_eq_true_iff ..).mpr
    ⟨hrule, fails_iff.mpr ⟨e, lineOperation_of_lineRow_error he⟩⟩

theorem exists_isErrorOf (h : isBad layout d line = true) (source : Text) (n : Nat) :
    ∃ e, IsErrorOf layout source d (line, n) e := by
  obtain ⟨cause, hcause⟩ := fails_iff.mp ((Bool.and_eq_true_iff ..).mp h).2
  exact ⟨cause.atRow source n, cause, hcause, rfl⟩

theorem IsErrorOf.place?_eq (h : IsErrorOf layout source d (line, n) e) :
    e.place? = some (source, n) := by
  obtain ⟨cause, hcause, rfl⟩ := h
  exact place?_of_rowOperation hcause source n

/-! ## First lines -/

theorem holds_of_firstLineWith? {first : Text × Nat} (h : firstLineWith? p t = some first) :
    p first.1 = true :=
  List.find?_some (p := fun line : Text × Nat => p line.1) h

theorem mem_zipIdx_of_firstLineWith? {first : Text × Nat} (h : firstLineWith? p t = some first) :
    first ∈ (trimmedLines t).zipIdx 1 :=
  List.mem_of_find?_eq_some h

/-- The first line with a property is also the first with a stronger one that it has. -/
theorem firstLineWith?_of_imp (hpq : ∀ l, q l = true → p l = true)
    {first : Text × Nat} (h : firstLineWith? p t = some first) (hq : q first.1 = true) :
    firstLineWith? q t = some first := by
  unfold firstLineWith? at h ⊢
  rw [List.find?_eq_some_iff_append] at h ⊢
  obtain ⟨-, before, after, hlines, hbefore⟩ := h
  refine ⟨hq, before, after, hlines, fun l hl => ?_⟩
  cases hql : q l.1 with
  | false => rfl
  | true =>
    have hp := hbefore l hl
    rw [hpq l.1 hql] at hp
    exact absurd hp (by decide)

/-- Among the lines that hold rules, the first with a property is the first line that holds a rule
and has it. -/
theorem find?_ruleLines (p : Text → Bool) (t : Text) :
    (ruleLines t).find? (fun line => p line.1) =
      firstLineWith? (fun line => holdsRule line && p line) t := by
  rw [ruleLines, List.find?_filter, firstLineWith?]
  congr 1
  funext line
  cases holdsRule line.1 <;> simp

theorem firstLineWith?_eq_none_iff :
    firstLineWith? p t = none ↔ ∀ l ∈ trimmedLines t, p l = false := by
  rw [firstLineWith?, List.find?_eq_none]
  constructor
  · intro h l hl
    obtain ⟨i, hi⟩ := exists_mem_zipIdx_of_mem hl 1
    simpa using h _ hi
  · intro h line hline
    simp [h line.1 (List.fst_mem_of_mem_zipIdx hline)]

/-! ## The line that is reported -/

/-- The first pass reports the first line that is misread. -/
theorem pass_lineRow_eq_error_iff (d : Defaults) :
    pass source (lineRow layout) (ruleLines t) = .error e ↔
      ∃ line ∈ firstLineWith? (isMisread layout) t, IsErrorOf layout source d line e := by
  rw [pass_eq_error_iff, find?_ruleLines fun line => fails (lineRow layout line)]
  constructor
  · rintro ⟨line, n, cause, hfirst, hcause, rfl⟩
    exact ⟨(line, n), hfirst, cause, lineOperation_of_lineRow_error hcause, rfl⟩
  · rintro ⟨⟨line, n⟩, hfirst, cause, hcause, rfl⟩
    have hmisread := holds_of_firstLineWith? hfirst
    obtain ⟨fault, hfault⟩ := fails_iff.mp ((Bool.and_eq_true_iff ..).mp hmisread).2
    have hsame := (lineOperation_of_lineRow_error hfault).symm.trans hcause
    cases hsame
    exact ⟨line, n, cause, hfirst, hfault, rfl⟩

/-- The second pass reports the first line that is bad. -/
theorem pass_lineOperation_eq_error_iff :
    pass source (lineOperation layout d) (ruleLines t) = .error e ↔
      ∃ line ∈ firstLineWith? (isBad layout d) t, IsErrorOf layout source d line e := by
  rw [pass_eq_error_iff, find?_ruleLines fun line => fails (lineOperation layout d line)]
  constructor
  · rintro ⟨line, n, cause, hfirst, hcause, rfl⟩
    exact ⟨(line, n), hfirst, cause, hcause, rfl⟩
  · rintro ⟨⟨line, n⟩, hfirst, cause, hcause, rfl⟩
    exact ⟨line, n, cause, hfirst, hcause, rfl⟩

/-- Nothing is misread in a text that comes through the first pass. -/
theorem firstLineWith?_isMisread_eq_none {xs : List Rule.Row}
    (h : pass source (lineRow layout) (ruleLines t) = .ok xs) :
    firstLineWith? (isMisread layout) t = none := by
  cases hfirst : firstLineWith? (isMisread layout) t with
  | none => rfl
  | some first =>
    obtain ⟨line, n⟩ := first
    obtain ⟨e, he⟩ := exists_isErrorOf
      (isBad_of_isMisread {} (holds_of_firstLineWith? hfirst)) source n
    have hfails := (pass_lineRow_eq_error_iff {}).mpr ⟨(line, n), hfirst, he⟩
    rw [h] at hfails
    cases hfails

/-- **The reading of a text reports one line**, with the error that this line has by itself. -/
theorem parseDelimited_eq_error_iff :
    parseDelimited layout source t = .error e ↔
      ∃ line ∈ reportedLine? layout (givenOptions layout t).rowDefaults t,
        IsErrorOf layout source (givenOptions layout t).rowDefaults line e := by
  rw [parseDelimited, readDelimited_eq_passes]
  cases hrows : pass source (lineRow layout) (ruleLines t) with
  | error fault =>
    obtain ⟨line, hfirst, -⟩ :=
      (pass_lineRow_eq_error_iff (givenOptions layout t).rowDefaults).mp hrows
    have hreported : reportedLine? layout (givenOptions layout t).rowDefaults t =
        firstLineWith? (isMisread layout) t := by
      rw [reportedLine?, Option.mem_def.mp hfirst, Option.some_or]
    rw [hreported, ← pass_lineRow_eq_error_iff, hrows]
    simp [Except.bind, Except.map]
  | ok xs =>
    rw [reportedLine?, firstLineWith?_isMisread_eq_none hrows, Option.none_or,
      ← pass_lineOperation_eq_error_iff]
    cases pass source (lineOperation layout (givenOptions layout t).rowDefaults) (ruleLines t) <;>
      simp [Except.bind, Except.map]

theorem mem_zipIdx_of_reportedLine? (h : (line, n) ∈ reportedLine? layout d t) :
    (line, n) ∈ (trimmedLines t).zipIdx 1 ∧ isBad layout d line = true := by
  rcases Option.or_eq_some_iff.mp h with h | ⟨-, h⟩
  · exact ⟨mem_zipIdx_of_firstLineWith? h, isBad_of_isMisread d (holds_of_firstLineWith? h)⟩
  · exact ⟨mem_zipIdx_of_firstLineWith? h, holds_of_firstLineWith? h⟩

theorem reportedLine?_isSome_iff :
    (reportedLine? layout d t).isSome = true ↔ ∃ l ∈ trimmedLines t, isBad layout d l = true := by
  constructor
  · intro h
    obtain ⟨⟨line, n⟩, hline⟩ := Option.isSome_iff_exists.mp h
    obtain ⟨hmem, hbad⟩ := mem_zipIdx_of_reportedLine? hline
    exact ⟨line, List.fst_mem_of_mem_zipIdx hmem, hbad⟩
  · rintro ⟨l, hl, hbad⟩
    cases hfirst : firstLineWith? (isBad layout d) t with
    | some first => rw [reportedLine?, hfirst, Option.isSome_or, Option.isSome_some, Bool.or_true]
    | none =>
      rw [firstLineWith?_eq_none_iff.mp hfirst l hl] at hbad
      cases hbad

/-- The line that is reported is the first bad one just when that is misread or none is. -/
theorem reportedLine?_eq_first_iff :
    reportedLine? layout d t = firstLineWith? (isBad layout d) t ↔
      ∀ line ∈ firstLineWith? (isBad layout d) t,
        isMisread layout line.1 = true ∨ ∀ l ∈ trimmedLines t, isMisread layout l = false := by
  cases hmisread : firstLineWith? (isMisread layout) t with
  | none =>
    have hnone := firstLineWith?_eq_none_iff.mp hmisread
    rw [reportedLine?, hmisread, Option.none_or]
    exact ⟨fun _ _ _ => Or.inr hnone, fun _ => rfl⟩
  | some first =>
    rw [reportedLine?, hmisread, Option.some_or]
    constructor
    · intro h line hline
      rw [← h] at hline
      cases hline
      exact Or.inl (holds_of_firstLineWith? hmisread)
    · intro h
      cases hbad : firstLineWith? (isBad layout d) t with
      | none =>
        have hnot := firstLineWith?_eq_none_iff.mp hbad first.1
          (List.fst_mem_of_mem_zipIdx (mem_zipIdx_of_firstLineWith? hmisread))
        rw [isBad_of_isMisread d (holds_of_firstLineWith? hmisread)] at hnot
        cases hnot
      | some line =>
        rcases h line hbad with hline | hnone
        · rw [← hmisread]
          exact firstLineWith?_of_imp (fun l => isBad_of_isMisread d) hbad hline
        · rw [firstLineWith?_eq_none_iff.mpr hnone] at hmisread
          cases hmisread

/-- **The first bad line of a text is reported, unless a line further down is misread.** A text
fails just when it has a bad line. The line that is reported is the first one that is misread, or
else the first bad one. Its error names the source and the number of the line, and it is the error
of the first bad line just when that one is misread or no line is. -/
theorem parseDelimited_reports_first_iff (layout : Layout) (source t : Text) :
    let d := (givenOptions layout t).rowDefaults
    ((∃ e, parseDelimited layout source t = .error e) ↔
        ∃ l ∈ trimmedLines t, isBad layout d l = true) ∧
      ∀ e, parseDelimited layout source t = .error e →
        (∃ line n, (line, n) ∈ reportedLine? layout d t ∧ (line, n) ∈ (trimmedLines t).zipIdx 1 ∧
          isBad layout d line = true ∧ IsErrorOf layout source d (line, n) e ∧
          e.Names source n) ∧
        ((∃ line ∈ firstLineWith? (isBad layout d) t, IsErrorOf layout source d line e) ↔
          ∀ line ∈ firstLineWith? (isBad layout d) t,
            isMisread layout line.1 = true ∨ ∀ l ∈ trimmedLines t, isMisread layout l = false) := by
  intro d
  refine ⟨?_, fun e he => ?_⟩
  · rw [← reportedLine?_isSome_iff, Option.isSome_iff_exists]
    constructor
    · rintro ⟨e, he⟩
      obtain ⟨line, hline, -⟩ := parseDelimited_eq_error_iff.mp he
      exact ⟨line, hline⟩
    · rintro ⟨⟨line, n⟩, hline⟩
      obtain ⟨e, he⟩ := exists_isErrorOf (mem_zipIdx_of_reportedLine? hline).2 source n
      exact ⟨e, parseDelimited_eq_error_iff.mpr ⟨(line, n), hline, he⟩⟩
  obtain ⟨⟨line, n⟩, hline, herror⟩ := parseDelimited_eq_error_iff.mp he
  obtain ⟨hmem, hbad⟩ := mem_zipIdx_of_reportedLine? hline
  refine ⟨⟨line, n, hline, hmem, hbad, herror, Error.names_of_place? herror.place?_eq⟩, ?_⟩
  rw [← reportedLine?_eq_first_iff]
  constructor
  · rintro ⟨⟨line', n'⟩, hline', herror'⟩
    -- an error tells the number of its line, and there is one line with that number
    have hplace := herror.place?_eq.symm.trans herror'.place?_eq
    cases hplace
    have hget := (List.mk_mem_zipIdx_iff_le_and_getElem?_sub.mp hmem).2
    have hget' := (List.mk_mem_zipIdx_iff_le_and_getElem?_sub.mp
      (mem_zipIdx_of_firstLineWith? hline')).2
    cases hget.symm.trans hget'
    exact (Option.mem_def.mp hline).trans (Option.mem_def.mp hline').symm
  · intro h
    exact ⟨(line, n), h ▸ hline, herror⟩

/-- A pattern that cannot be read stands above a kind that does not exist, and the kind is
reported. -/
theorem parseDelimited_reports_kind_below :
    let t := "(\tx\na\tb\t7".toList
    let e := Error.row "rules".toList 2 (.unknownKind ['7'])
    firstLineWith? (isBad {} {}) t = some ("(\tx".toList, 1) ∧
      parseDelimited {} "rules".toList t = .error e ∧ e.Names "rules".toList 2 ∧
      ¬ ∃ line ∈ firstLineWith? (isBad {} {}) t, IsErrorOf {} "rules".toList {} line e := by
  intro t e
  let below := "a\tb\t7".toList
  have hoptions : (givenOptions {} t).rowDefaults = {} := by decide +kernel
  have hfirst : firstLineWith? (isBad {} {}) t = some ("(\tx".toList, 1) := by decide +kernel
  have hreported : reportedLine? {} {} t = some (below, 2) := by decide +kernel
  have hcut : cutComment {} below = (below, none) := by decide +kernel
  have hfields : fieldsOf ['\t'] (dropSuffixes ['\t'] below) = [['a'], ['b'], ['7']] := by
    decide +kernel
  have hrow : readRow {} below = .error (.unknownKind ['7']) := by
    rw [readRow, hcut]
    exact congrArg (Rule.Row.ofFields · none) hfields
  have herror : IsErrorOf {} "rules".toList {} (below, 2) e := by
    refine ⟨.row [] 0 (.unknownKind ['7']), ?_, rfl⟩
    rw [lineOperation, hrow]
    rfl
  have hfails : parseDelimited {} "rules".toList t = .error e := by
    rw [parseDelimited_eq_error_iff, hoptions]
    exact ⟨_, hreported, herror⟩
  have hall := (parseDelimited_reports_first_iff {} "rules".toList t).2 e hfails
  rw [hoptions] at hall
  refine ⟨hfirst, hfails, ?_, ?_⟩
  · obtain ⟨line, n, -, -, -, herror, hnames⟩ := hall.1
    cases herror.place?_eq
    exact hnames
  · rw [hall.2]
    intro h
    rcases h _ hfirst with hmisread | hnone
    · exact absurd hmisread (by decide +kernel)
    · exact absurd (hnone below (by decide)) (by decide +kernel)

end Source

end Lector
