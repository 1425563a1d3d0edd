import Lector.Proofs.Latex.Denotation

/-!
# Balanced braces and brackets

Whether a LaTeX text can be converted is a matter of its braces and brackets alone. A scan over its
characters keeps the marks that are open: braces wherever they stand, and brackets where they open
the option of a macro. The conversion goes over the text by tokens, the scan by characters, and
between two tokens the same marks are open for both.

## Main definitions

* `Scan`, `Scan.step`: the scan of a text, character by character
* `Balanced`: a scan that meets no error and leaves nothing open
* `Agrees`, `Together`: the conversion and the scan stand at the same place

## Main results

* `step_together`: a token opens and closes the same for the conversion and for the scan
* `read_together`: so does a text
* `toText_ok_iff_balanced`: the balanced texts are those that are converted
-/

namespace Lector.Latex

/-- The names of the macros that take arguments. -/
def argumentNames : List Text :=
  (Unary.all.map Unary.name ++ Binary.all.map Binary.name).map String.toList

/-- The marks that open something. -/
inductive Mark
  | brace
  | bracket
  deriving DecidableEq, Repr

/-- What the characters in front of a place mean for the next one. -/
inductive Place
  | free
  /-- A backslash stands in front of the next character, which is skipped. -/
  | escaped
  /-- The next character belongs to a comment. -/
  | comment
  /-- The letters of a macro's name stand in front. -/
  | named (name : Text)
  /-- A macro's name with a star stands in front. -/
  | starred (name : Text)
  deriving DecidableEq, Repr

namespace Place

/-- Whether a bracket opens an option: it does right behind a macro that takes arguments. -/
def takesOption : Place → Bool
  | named name | starred name => argumentNames.contains name
  | _ => false

/-- The place behind a character that stands for itself. -/
def after (c : Char) : Place → Place
  | named name =>
    if c.isAlpha then named (name ++ [c]) else if c = '*' then starred name else free
  | _ => free

/-- A token ends at the place, whatever text follows. -/
def Before (rest : Text) : Place → Prop
  | named _ => ∀ c, rest.head? = some c → c.isAlpha = false ∧ c ≠ '*'
  | escaped | comment => False
  | _ => True

end Place

/-- Where the scan of a text stands. -/
structure Scan where
  /-- What the characters so far mean for the next one. -/
  place : Place := .free
  /-- The marks that are open, the innermost first. -/
  marks : List Mark := []
  deriving DecidableEq, Repr

namespace Scan

/-- Scans a character that is neither skipped nor part of a comment. -/
def meet (p : Scan) (c : Char) : Option Scan :=
  if c = '\\' then some ⟨.escaped, p.marks⟩
  else if c = '%' then some ⟨.comment, p.marks⟩
  else if c = '\x7b' then some ⟨.free, .brace :: p.marks⟩
  else if c = '\x7d' then
    match p.marks with
    | .brace :: marks => some ⟨.free, marks⟩
    | _ => none
  else if c = '[' ∧ p.place.takesOption then some ⟨.free, .bracket :: p.marks⟩
  else if c = ']' ∧ p.marks.head? = some .bracket then some ⟨.free, p.marks.tail⟩
  else some ⟨p.place.after c, p.marks⟩

/-- Scans a character. Only a closing brace can be an error. -/
def step (p : Scan) (c : Char) : Option Scan :=
  match p.place with
  | .escaped => some ⟨if c.isAlpha then .named [c] else .free, p.marks⟩
  | .comment => some ⟨if c = '\n' then .free else .comment, p.marks⟩
  | _ => p.meet c

/-- Scans a text. -/
def scan (p : Scan) (t : Text) : Option Scan := t.foldlM step p

end Scan

/-- A text is balanced: its scan meets no error and leaves nothing open. -/
def Balanced (t : Text) : Prop := (Scan.scan {} t).map Scan.marks = some []

instance (t : Text) : Decidable (Balanced t) :=
  inferInstanceAs (Decidable ((Scan.scan {} t).map Scan.marks = some []))

/-! ## What a scan makes of a token -/

namespace Scan

variable {p : Scan} {rest : Text}

@[simp] theorem scan_nil (p : Scan) : p.scan [] = some p := rfl

theorem scan_cons (p : Scan) (c : Char) (t : Text) :
    p.scan (c :: t) = (p.step c).bind fun p => p.scan t := rfl

theorem scan_singleton (p : Scan) (c : Char) : p.scan [c] = p.step c := by
  simp [scan]

theorem scan_append (p : Scan) (t u : Text) :
    p.scan (t ++ u) = (p.scan t).bind fun p => p.scan u := by
  simp only [scan, List.foldlM_append]
  rfl

/-- The characters that are more than themselves for a scan. -/
def signs : List Char := ['\\', '%', '\x7b', '\x7d', '[', ']']

theorem meet_of_not_sign (p : Scan) {c : Char} (h : c ∉ signs) :
    p.meet c = some ⟨p.place.after c, p.marks⟩ := by
  simp only [signs, List.mem_cons, List.not_mem_nil, or_false, not_or] at h
  simp [meet, h]

/-- Where a token ends, the next character is neither skipped nor part of a comment. -/
theorem step_eq_meet {c : Char} (h : p.place.Before (c :: rest)) : p.step c = p.meet c := by
  unfold step
  split
  next he => simp [he, Place.Before] at h
  next he => simp [he, Place.Before] at h
  next => rfl

/-- Where a token ends, a character that stands for itself does not go on with it. -/
theorem after_eq_free {c : Char} (h : p.place.Before (c :: rest)) : p.place.after c = .free := by
  unfold Place.after
  split
  next name he =>
    rw [he] at h
    obtain ⟨hc, hstar⟩ := h c rfl
    simp [hc, hstar]
  next => rfl

/-- A character that is no token of another kind opens an option, closes one or does neither. -/
theorem meet_char {c : Char} (hc : c ∉ specials) (h : p.place.Before (c :: rest)) :
    p.meet c =
      if c = '[' ∧ p.place.takesOption = true then some ⟨.free, .bracket :: p.marks⟩
      else if c = ']' ∧ p.marks.head? = some .bracket then some ⟨.free, p.marks.tail⟩
      else some ⟨.free, p.marks⟩ := by
  simp only [specials, List.mem_cons, List.not_mem_nil, or_false, not_or] at hc
  simp [meet, hc, after_eq_free h]

theorem meet_closing {marks : List Mark} (h : p.marks = .brace :: marks) :
    p.meet '\x7d' = some ⟨.free, marks⟩ := by
  simp [meet, h]

theorem meet_closing_eq_none (h : ∀ marks, p.marks ≠ .brace :: marks) : p.meet '\x7d' = none := by
  have hmeet : p.meet '\x7d' =
      match p.marks with
      | .brace :: marks => some ⟨.free, marks⟩
      | _ => none := rfl
  rw [hmeet]
  split
  next marks hm => exact absurd hm (h marks)
  next => rfl

theorem not_sign_of_isAlpha {c : Char} (h : c.isAlpha = true) : c ∉ signs := by
  intro hc
  simp only [signs, List.mem_cons, List.not_mem_nil, or_false] at hc
  rcases hc with rfl | rfl | rfl | rfl | rfl | rfl <;> revert h <;> decide

/-- Letters go on with a name. -/
theorem scan_letters {letters : Text} (h : ∀ c ∈ letters, c.isAlpha = true) (name : Text)
    (marks : List Mark) :
    (⟨.named name, marks⟩ : Scan).scan letters = some ⟨.named (name ++ letters), marks⟩ := by
  induction letters generalizing name with
  | nil => simp
  | cons c letters ih =>
    have hc : c.isAlpha = true := h c (by simp)
    have hstep : (⟨.named name, marks⟩ : Scan).step c = some ⟨.named (name ++ [c]), marks⟩ := by
      change Scan.meet _ c = _
      rw [meet_of_not_sign _ (not_sign_of_isAlpha hc)]
      simp [Place.after, hc]
    rw [scan_cons, hstep, Option.bind_some, ih (fun d hd => h d (by simp [hd]))]
    simp

/-- The name of a macro is scanned with its star. -/
theorem scan_word {name : Text} {starred : Bool} (h : (Token.word name starred).Before rest)
    (hp : p.place.Before ((Token.word name starred).source ++ rest)) :
    p.scan (Token.word name starred).source =
      some ⟨if starred then .starred name else .named name, p.marks⟩ := by
  obtain ⟨hne, hletters, -⟩ := h
  obtain ⟨c, letters, rfl⟩ := List.exists_cons_of_ne_nil hne
  have hc : c.isAlpha = true := hletters c (by simp)
  have hname : (⟨.escaped, p.marks⟩ : Scan).scan (c :: letters) =
      some ⟨.named (c :: letters), p.marks⟩ := by
    have hfirst : (⟨.escaped, p.marks⟩ : Scan).step c = some ⟨.named [c], p.marks⟩ := by
      simp [step, hc]
    rw [scan_cons, hfirst, Option.bind_some, scan_letters fun d hd => hletters d (by simp [hd])]
    rfl
  have hescape : p.step '\\' = some ⟨.escaped, p.marks⟩ := step_eq_meet hp
  rw [Token.source, List.cons_append, scan_cons, hescape, Option.bind_some, scan_append, hname]
  cases starred with
  | false => rfl
  | true => rfl

/-- The line of a comment is skipped. -/
theorem scan_line {line : Text} (h : '\n' ∉ line) (marks : List Mark) :
    (⟨.comment, marks⟩ : Scan).scan line = some ⟨.comment, marks⟩ := by
  induction line with
  | nil => rfl
  | cons c line ih =>
    have hc : c ≠ '\n' := fun e => h (by simp [e])
    have hstep : (⟨.comment, marks⟩ : Scan).step c = some ⟨.comment, marks⟩ := by
      simp [step, hc]
    rw [scan_cons, hstep, Option.bind_some, ih fun hl => h (by simp [hl])]

/-- A comment is scanned up to the end of its line. -/
theorem scan_comment {line : Text} {ended : Bool} (h : '\n' ∉ line)
    (hp : p.place.Before ((Token.comment line ended).source ++ rest)) :
    p.scan (Token.comment line ended).source =
      some ⟨if ended then .free else .comment, p.marks⟩ := by
  have hopen : p.step '%' = some ⟨.comment, p.marks⟩ := step_eq_meet hp
  rw [Token.source, List.cons_append, scan_cons, hopen, Option.bind_some, scan_append,
    scan_line h]
  cases ended with
  | false => rfl
  | true => rfl

end Scan

/-! ## What the conversion makes of a token -/

/-- Whether a reading is a phrase, into which arguments are set. -/
def Reading.isPhrase : Reading → Bool
  | .phrase _ => true
  | .text _ => false

/-- The macros that take arguments are those that are set into phrases. -/
theorem isPhrase_reading?_iff (name : Text) :
    (∃ p, reading? name = some (.phrase p)) ↔ name ∈ argumentNames := by
  have htable : ∀ r ∈ readings, r.2.isPhrase = true → r.1.toList ∈ argumentNames := by
    decide
  constructor
  · rintro ⟨p, hp⟩
    unfold reading? at hp
    split at hp
    next n r hfind =>
      obtain rfl : r = .phrase p := by simpa using hp
      obtain rfl : n.toList = name := by simpa using List.find?_some hfind
      exact htable _ (List.mem_of_find?_eq_some hfind) rfl
    next =>
      split at hp
      · cases hp
      · cases hp
  · intro h
    simp only [argumentNames, List.map_append, List.map_map, List.mem_append, List.mem_map] at h
    rcases h with ⟨m, -, rfl⟩ | ⟨m, -, rfl⟩
    · exact ⟨_, m.reading?_name⟩
    · exact ⟨_, m.reading?_name⟩

/-- The mark that opened an enclosure. -/
def Open.mark : Open → Mark
  | .option _ _ => .bracket
  | _ => .brace

namespace State

/-- The marks that are open, the innermost first. -/
def marks (s : State) : List Mark := s.opens.map Open.mark

/-- Whether a macro waits for an option or its first argument, with nothing in between so far. -/
def awaitsOption (s : State) : Bool := s.waiting.any Waiting.fresh

@[simp] theorem marks_advance (s : State) (n : Nat) : (s.advance n).marks = s.marks := rfl

@[simp] theorem awaitsOption_advance (s : State) (n : Nat) :
    (s.advance n).awaitsOption = s.awaitsOption := rfl

@[simp] theorem marks_say (s : State) (t : Text) : (s.say t).marks = s.marks := rfl

@[simp] theorem marks_settle (s : State) : s.settle.marks = s.marks := by
  unfold settle
  split <;> rfl

@[simp] theorem waiting_settle (s : State) : s.settle.waiting = none := by
  unfold settle
  split
  next h => exact h
  next => rfl

theorem settle_of_free {s : State} (h : s.waiting = none) : s.settle = s := by
  simp [settle, h]

@[simp] theorem marks_supply (s : State) (w : Waiting) (t : Text) :
    (s.supply w t).marks = s.marks := by
  unfold supply
  dsimp only
  split <;> rfl

@[simp] theorem awaitsOption_supply (s : State) (w : Waiting) (t : Text) :
    (s.supply w t).awaitsOption = false := by
  unfold supply
  dsimp only
  split <;> rfl

theorem awaitsOption_of_free {s : State} (h : s.waiting = none) : s.awaitsOption = false := by
  simp [awaitsOption, h]

/-- While a macro waits, a token is converted for it. -/
theorem step_of_waiting {s : State} {w : Waiting} (h : s.waiting = some w) (k : Token) :
    s.step k = (s.advance k.source.length).stepWaiting w k := by
  obtain ⟨done, opens, waiting, position⟩ := s
  obtain rfl : waiting = some w := h
  rfl

/-- A token that goes on with no macro is converted as if none waited. -/
theorem step_settled (s : State) {k : Token} (hopening : k ≠ .opening) (hchar : ∀ c, k ≠ .char c) :
    s.step k = (s.advance k.source.length).settle.stepFree k := by
  cases hw : s.waiting with
  | none => rw [step_of_free hw, settle_of_free (by simpa using hw)]
  | some w =>
    rw [step_of_waiting hw]
    cases k with
    | opening => exact absurd rfl hopening
    | char c => exact absurd rfl (hchar c)
    | _ => rfl

theorem step_opening (s : State) :
    ∃ s', s.step .opening = .ok s' ∧ s'.marks = .brace :: s.marks ∧ s'.awaitsOption = false := by
  cases hw : s.waiting with
  | none => exact ⟨_, step_of_free hw _, rfl, rfl⟩
  | some w => exact ⟨_, step_of_waiting hw _, rfl, rfl⟩

/-- A closing brace closes a brace. -/
theorem close_of_brace {s : State} (hw : s.waiting = none) {marks : List Mark}
    (h : s.marks = .brace :: marks) :
    ∃ s', s.close = .ok s' ∧ s'.marks = marks ∧ s'.awaitsOption = false := by
  obtain ⟨o, opens, ho, hmark, rfl⟩ : ∃ o opens, s.opens = o :: opens ∧ o.mark = .brace ∧
      opens.map Open.mark = marks := List.map_eq_cons_iff.mp h
  cases o with
  | group before =>
    refine ⟨{ s with done := s.done ++ before, opens := opens }, ?_, rfl, ?_⟩
    · simp [close, ho]
    · exact awaitsOption_of_free hw
  | argument before w =>
    refine ⟨({ s with done := before, opens := opens } : State).supply w s.done.reverse, ?_, ?_, ?_⟩
    · simp [close, ho]
    · rw [marks_supply]
      rfl
    · exact awaitsOption_supply _ _ _
  | option before p => cases hmark

/-- A closing brace closes nothing but a brace. -/
theorem close_eq_error {s : State} (h : ∀ marks, s.marks ≠ .brace :: marks) :
    s.close = .error ⟨.unbalanced, s.position⟩ := by
  unfold close
  split
  next before opens ho => exact absurd (congrArg (List.map Open.mark) ho) (h _)
  next before w opens ho => exact absurd (congrArg (List.map Open.mark) ho) (h _)
  next => rfl

/-- A bracket right behind a macro that takes arguments opens its option. -/
theorem step_bracket {s : State} (h : s.awaitsOption = true) :
    ∃ s', s.step (.char '[') = .ok s' ∧ s'.marks = .bracket :: s.marks ∧
      s'.awaitsOption = false := by
  cases hw : s.waiting with
  | none => simp [awaitsOption, hw] at h
  | some w =>
    have hfresh : w.fresh = true := by simpa [awaitsOption, hw] using h
    refine ⟨(s.advance 1).enclose (.option s.done w.phrase), ?_, rfl, rfl⟩
    rw [step_of_waiting hw]
    simp [stepWaiting, hfresh, Token.source, advance]

/-- The marks that are open behind a character that opens nothing. -/
def marksBehind (s : State) (c : Char) : List Mark :=
  if c = ']' ∧ s.marks.head? = some .bracket then s.marks.tail else s.marks

theorem inOption_iff (s : State) : s.inOption = true ↔ s.marks.head? = some .bracket := by
  unfold inOption marks
  cases s.opens with
  | nil => simp
  | cons o opens => cases o <;> simp [Open.mark]

/-- A character closes an option if it is a bracket, and is said otherwise. -/
theorem hear_marks {s : State} (hw : s.waiting = none) (c : Char) :
    (s.hear c).marks = s.marksBehind c ∧ (s.hear c).awaitsOption = false := by
  by_cases hclosed : c = ']' ∧ s.marks.head? = some .bracket
  · obtain ⟨rfl, hhead⟩ := hclosed
    obtain ⟨o, opens, ho⟩ : ∃ o opens, s.opens = o :: opens := by
      cases ho : s.opens with
      | nil => simp [marks, ho] at hhead
      | cons o opens => exact ⟨o, opens, rfl⟩
    cases o with
    | option before p =>
      have hhear : s.hear ']' =
          ({ s with done := before, opens := opens } : State).wait
            { phrase := p, fresh := false } := by
        simp [hear, ho, wait]
      rw [hhear]
      refine ⟨?_, rfl⟩
      simp [marksBehind, marks, ho, Open.mark, wait]
    | group before => simp [marks, ho, Open.mark] at hhead
    | argument before w => simp [marks, ho, Open.mark] at hhead
  · have hsay : s.hear c = s.say [c] :=
      hear_eq_say fun ho hc => hclosed ⟨hc, s.inOption_iff.mp ho⟩
    rw [hsay, marksBehind, if_neg hclosed]
    exact ⟨rfl, awaitsOption_of_free hw⟩

/-- Any other character opens nothing, and closes nothing but an option. -/
theorem step_char {s : State} {c : Char} (h : c = '[' → s.awaitsOption = false) :
    ∃ s', s.step (.char c) = .ok s' ∧ s'.marks = s.marksBehind c ∧ s'.awaitsOption = false := by
  cases hw : s.waiting with
  | none =>
    obtain ⟨hm, ha⟩ := hear_marks (s := s.advance 1) hw c
    exact ⟨_, step_of_free hw _, hm, ha⟩
  | some w =>
    have hbracket : (w.fresh && decide (c = '[')) = false := by
      by_cases hc : c = '['
      · simpa [awaitsOption, hw, hc] using h hc
      · simp [hc]
    -- White space and arguments are no brackets, so they close nothing.
    have hsame (hc : c ≠ ']') : s.marks = s.marksBehind c := by simp [marksBehind, hc]
    rw [step_of_waiting hw, stepWaiting, hbracket]
    by_cases hblank : isBlank c = true
    · have hc : c ≠ ']' := by rintro rfl; revert hblank; decide
      simp only [Bool.false_eq_true, if_false, hblank, if_true]
      exact ⟨_, rfl, hsame hc, rfl⟩
    by_cases hargument : isArgument c = true
    · have hc : c ≠ ']' := by rintro rfl; revert hargument; decide
      simp only [Bool.false_eq_true, if_false, hblank, hargument, if_true]
      refine ⟨_, rfl, ?_, awaitsOption_supply _ _ _⟩
      rw [marks_supply]
      exact hsame hc
    · simp only [Bool.false_eq_true, if_false, hblank, hargument]
      obtain ⟨hm, ha⟩ := hear_marks (s.advance (Token.char c).source.length).waiting_settle c
      refine ⟨_, rfl, ?_, ha⟩
      rw [hm, marksBehind, marks_settle]
      rfl

/-- A macro waits for an option if it takes arguments. -/
theorem meet_marks {s : State} (hw : s.waiting = none) (name : Text) :
    (s.meet name).marks = s.marks ∧
      ((s.meet name).awaitsOption = true ↔ name ∈ argumentNames) := by
  rw [← isPhrase_reading?_iff]
  unfold meet
  split
  next t hr => exact ⟨rfl, by simp [hr, awaitsOption, say, hw]⟩
  next p hr => exact ⟨rfl, by simp [hr, awaitsOption]⟩
  next hr => exact ⟨rfl, by simp [hr, awaitsOption, hw]⟩

end State

/-! ## The conversion and the scan side by side -/

/-- The conversion and the scan stand in front of the same text: the same marks are open, and if
text follows, a token has just ended and a bracket would mean the same to both. -/
structure Agrees (rest : Text) (s : State) (p : Scan) : Prop where
  marks : s.marks = p.marks
  ready : rest ≠ [] → p.place.Before rest ∧ (s.awaitsOption = true ↔ p.place.takesOption = true)

/-- The conversion and the scan both fail, or stand in front of the same text. -/
def Together (rest : Text) : Except Fault State → Option Scan → Prop
  | .ok s, some p => Agrees rest s p
  | .error _, none => True
  | _, _ => False

/-- No macro waits, and a bracket is none that opens an option. -/
theorem together_of_free {rest : Text} {s : State} {p : Scan} (hmarks : s.marks = p.marks)
    (hoption : s.awaitsOption = false) (hplace : p.place = .free) :
    Together rest (.ok s) (some p) := by
  refine ⟨hmarks, fun _ => ?_⟩
  rw [hplace, hoption]
  exact ⟨trivial, Iff.rfl⟩

/-- **A token opens and closes the same** for the conversion and for the scan. -/
theorem step_together {s : State} {p : Scan} {k : Token} {rest : Text} (hk : k.Before rest)
    (h : Agrees (k.source ++ rest) s p) : Together rest (s.step k) (p.scan k.source) := by
  have hne : k.source ++ rest ≠ [] := by
    intro he
    cases k <;> simp [Token.source] at he
  obtain ⟨hplace, hoption⟩ := h.ready hne
  have hmarks := h.marks
  -- All tokens but characters and opening braces are converted behind a macro as elsewhere.
  have hsettled (hopening : k ≠ .opening) (hchar : ∀ c, k ≠ .char c) :
      ∃ s' : State, s.step k = s'.stepFree k ∧ s'.waiting = none ∧ s'.marks = p.marks :=
    ⟨_, s.step_settled hopening hchar, State.waiting_settle _, by simpa using hmarks⟩
  cases k with
  | char c =>
    have hstep : p.scan (Token.char c).source = p.meet c := by
      rw [Token.source, Scan.scan_singleton, Scan.step_eq_meet hplace]
    rw [hstep, Scan.meet_char hk hplace]
    by_cases hopens : c = '[' ∧ p.place.takesOption = true
    · obtain ⟨rfl, htakes⟩ := hopens
      obtain ⟨s', hs, hm, ha⟩ := State.step_bracket (hoption.mpr htakes)
      rw [hs, if_pos ⟨rfl, htakes⟩]
      exact together_of_free (by rw [hm, hmarks]) ha rfl
    · have hnone (hc : c = '[') : s.awaitsOption = false :=
        Bool.eq_false_iff.mpr fun ha => hopens ⟨hc, hoption.mp ha⟩
      obtain ⟨s', hs, hm, ha⟩ := State.step_char hnone
      rw [State.marksBehind, hmarks] at hm
      rw [hs, if_neg hopens]
      split
      next hcloses => exact together_of_free (by rw [hm, if_pos hcloses]) ha rfl
      next hcloses => exact together_of_free (by rw [hm, if_neg hcloses]) ha rfl
  | tie =>
    obtain ⟨s', hs, hw, hm⟩ := hsettled (by decide) (by intro c hc; cases hc)
    rw [hs, Token.source, Scan.scan_singleton, Scan.step_eq_meet hplace,
      Scan.meet_of_not_sign _ (by decide), Scan.after_eq_free hplace]
    exact together_of_free (by simpa using hm) (State.awaitsOption_of_free hw) rfl
  | math =>
    obtain ⟨s', hs, hw, hm⟩ := hsettled (by decide) (by intro c hc; cases hc)
    rw [hs, Token.source, Scan.scan_singleton, Scan.step_eq_meet hplace,
      Scan.meet_of_not_sign _ (by decide), Scan.after_eq_free hplace]
    exact together_of_free hm (State.awaitsOption_of_free hw) rfl
  | opening =>
    obtain ⟨s', hs, hm, ha⟩ := s.step_opening
    have hscan : p.scan Token.opening.source = some ⟨.free, .brace :: p.marks⟩ := by
      rw [Token.source, Scan.scan_singleton, Scan.step_eq_meet hplace]
      rfl
    rw [hs, hscan]
    exact together_of_free (by rw [hm, hmarks]) ha rfl
  | closing =>
    obtain ⟨s', hs, hw, hm⟩ := hsettled (by decide) (by intro c hc; cases hc)
    have hscan : p.scan Token.closing.source = p.meet '\x7d' := by
      rw [Token.source, Scan.scan_singleton, Scan.step_eq_meet hplace]
    rw [hs, hscan]
    change Together rest s'.close _
    by_cases hbrace : ∃ marks, p.marks = .brace :: marks
    · obtain ⟨marks, hp⟩ := hbrace
      obtain ⟨s'', hclose, hm', ha⟩ := State.close_of_brace hw (hm.trans hp)
      rw [hclose, Scan.meet_closing hp]
      exact together_of_free hm' ha rfl
    · have hnone (marks : List Mark) : p.marks ≠ .brace :: marks := fun hp => hbrace ⟨marks, hp⟩
      rw [State.close_eq_error fun marks hp => hnone marks (hm.symm.trans hp),
        Scan.meet_closing_eq_none hnone]
      trivial
  | comment line ended =>
    obtain ⟨s', hs, hw, hm⟩ := hsettled (by intro hc; cases hc) (by intro c hc; cases hc)
    rw [hs, Scan.scan_comment hk.1 hplace]
    rcases hk.2 with rfl | rfl
    · exact together_of_free hm (State.awaitsOption_of_free hw) rfl
    · exact ⟨hm, fun hr => absurd rfl hr⟩
  | word name starred =>
    obtain ⟨s', hs, hw, hm⟩ := hsettled (by intro hc; cases hc) (by intro c hc; cases hc)
    obtain ⟨hmeet, hawaits⟩ := State.meet_marks hw name
    rw [hs, Scan.scan_word hk hplace]
    refine ⟨hmeet.trans hm, fun _ => ?_⟩
    cases starred with
    | true => exact ⟨trivial, by simpa [Place.takesOption] using hawaits⟩
    | false =>
      have hends : ∀ c, rest.head? = some c → c.isAlpha = false ∧ c ≠ '*' := by
        simpa using hk.2.2
      exact ⟨hends, by simpa [Place.takesOption] using hawaits⟩
  | symbol c =>
    have hc : c.isAlpha = false := hk
    obtain ⟨s', hs, hw, hm⟩ := hsettled (by intro hc; cases hc) (by intro c hc; cases hc)
    obtain ⟨hmeet, hawaits⟩ := State.meet_marks hw [c]
    have hlong : ∀ name ∈ argumentNames, name.length ≠ 1 := by decide
    have hnone : (s'.meet [c]).awaitsOption = false :=
      Bool.eq_false_iff.mpr fun ha => hlong _ (hawaits.mp ha) rfl
    have hescape : p.step '\\' = some ⟨.escaped, p.marks⟩ := Scan.step_eq_meet hplace
    rw [hs, Token.source, Scan.scan_cons, hescape, Option.bind_some, Scan.scan_singleton]
    exact together_of_free (hmeet.trans hm) hnone (by simp [hc])
  | lone =>
    obtain ⟨s', hs, hw, hm⟩ := hsettled (by decide) (by intro c hc; cases hc)
    obtain rfl : rest = [] := hk
    rw [hs, Token.source, Scan.scan_singleton, Scan.step_eq_meet hplace]
    exact ⟨hm, fun hr => absurd rfl hr⟩

/-- **A text opens and closes the same** for the conversion and for the scan. -/
theorem read_together {s : State} {p : Scan} {t : Text} (h : Agrees t s p) :
    Together [] (s.read t) (p.scan t) := by
  induction t using Token.induction generalizing s p with
  | nil =>
    rw [State.read_nil, Scan.scan_nil]
    exact h
  | token k rest hk ih =>
    have hstep := step_together hk h
    rw [s.read_source_append hk, Scan.scan_append]
    cases hs : s.step k with
    | error f =>
      cases hp : p.scan k.source with
      | none => trivial
      | some p' => simp [hs, hp, Together] at hstep
    | ok s' =>
      cases hp : p.scan k.source with
      | none => simp [hs, hp, Together] at hstep
      | some p' =>
        rw [hs, hp] at hstep
        exact ih hstep

/-- A conversion ends well if nothing is open. -/
theorem State.finish_of_marks (s : State) :
    (s.marks = [] ∧ ∃ t, s.finish = .ok t) ∨ (s.marks ≠ [] ∧ ∃ f, s.finish = .error f) := by
  unfold finish marks
  cases s.opens with
  | nil => exact Or.inl ⟨rfl, _, rfl⟩
  | cons o opens =>
    refine Or.inr ⟨by simp, ?_⟩
    cases o with
    | option before p => exact ⟨_, rfl⟩
    | group before => exact ⟨_, rfl⟩
    | argument before w => exact ⟨_, rfl⟩

/-- Balanced texts are converted, and all others are at fault. -/
theorem convert_of_balanced (t : Text) :
    (Balanced t ∧ ∃ spoken, convert t = .ok spoken) ∨
      (¬ Balanced t ∧ ∃ f, convert t = .error f) := by
  have hread : Together [] (State.read {} t) (Scan.scan {} t) :=
    read_together ⟨rfl, fun _ => ⟨trivial, Iff.rfl⟩⟩
  have hconvert : convert t = (State.read {} t).bind State.finish := rfl
  unfold Balanced
  rw [hconvert]
  cases hs : State.read {} t with
  | error f =>
    cases hp : Scan.scan {} t with
    | none => exact Or.inr ⟨by simp, f, rfl⟩
    | some p => simp [hs, hp, Together] at hread
  | ok s =>
    cases hp : Scan.scan {} t with
    | none => simp [hs, hp, Together] at hread
    | some p =>
      rw [hs, hp] at hread
      have hmarks : s.marks = p.marks := Agrees.marks hread
      rw [Option.map_some, ← hmarks, Option.some.injEq]
      exact s.finish_of_marks

/-- **The texts that are converted are the balanced ones**, and every other text is refused as one
that cannot be transformed. -/
theorem toText_ok_iff_balanced (t : Text) :
    ((∃ spoken, toText t = .ok spoken) ↔ Balanced t) ∧
      ((∃ message, toText t = .error (.transform "latex_to_text".toList message)) ↔
        ¬ Balanced t) := by
  unfold toText
  rcases convert_of_balanced t with ⟨hb, spoken, hc⟩ | ⟨hb, f, hc⟩
  · rw [hc]
    refine ⟨⟨fun _ => hb, fun _ => ⟨spoken, rfl⟩⟩, ⟨?_, fun h => absurd hb h⟩⟩
    rintro ⟨message, h⟩
    cases h
  · rw [hc]
    refine ⟨⟨?_, fun h => absurd h hb⟩, ⟨fun _ => hb, fun _ => ⟨f.message, rfl⟩⟩⟩
    rintro ⟨spoken, h⟩
    cases h

/-- Within an option a bracket opens nothing, so the next one that closes is the end of it. -/
example : Balanced "\\cite*[p.~3 [a]\x7bx\x7d [".toList := by decide

example : ¬ Balanced "\\cite[\x7bx]\x7d".toList := by decide

end Lector.Latex
