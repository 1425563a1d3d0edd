import Lector.Proofs.Latex.Groups

/-!
# No signs are left over

Every character that a conversion says was brought by a token: by a character that stands for
itself, or by the reading of a macro. A text that has been brought is said once at most, since it is
kept in one place until then, whatever groups, options and arguments it is handed through. So the
characters that a state keeps can be counted, and a token adds no more than it brings. The signs of
LaTeX are brought by nothing but the escapes of braces and of the sign around formulas.

## Main definitions

* `State.tally`: how often a state keeps a character
* `Token.brings`: how often a token brings a character
* `escapeCount`: how often a text holds the escape of a character

## Main results

* `tally_of_step`, `tally_of_read`: a state keeps no more than tokens have brought
* `escapeCount_source_append`: the escapes of a text are its tokens
* `toText_of_plain`: a text without signs is said as it is
* `toText_signs`: which signs can be left in what is said
-/

namespace Lector.Latex

section Tally

variable (c : Char)

/-- How often a phrase holds a character. -/
def Phrase.tally (p : Phrase) : Nat := p.pieces.flatten.count c

/-- How often a macro that waits keeps a character. -/
def Waiting.tally (w : Waiting) : Nat :=
  w.phrase.tally c + w.arguments.flatten.count c + w.blanks.count c

/-- How often an enclosure keeps a character. -/
def Open.tally : Open → Nat
  | .group before => before.count c
  | .option before p => before.count c + p.tally c
  | .argument before w => before.count c + w.tally c

/-- How often a state keeps a character. -/
def State.tally (s : State) : Nat :=
  s.done.count c + (s.opens.map (Open.tally c)).sum + (s.waiting.map (Waiting.tally c)).getD 0

/-- How often a reading holds a character. -/
def Reading.tally : Reading → Nat
  | .text t => t.count c
  | .phrase p => p.tally c

/-- How often the reading of a macro holds a character, if it has one. -/
def readingTally (name : Text) : Nat := ((reading? name).map (Reading.tally c)).getD 0

/-- How often a token brings a character. -/
def Token.brings : Token → Nat
  | .char d => [d].count c
  | .tie => [' '].count c
  | .word name _ => readingTally c name
  | .symbol d => readingTally c [d]
  | _ => 0

@[simp] theorem Token.brings_char (d : Char) : (Token.char d).brings c = [d].count c := rfl

@[simp] theorem Token.brings_tie : Token.tie.brings c = [' '].count c := rfl

@[simp] theorem Token.brings_word (name : Text) (starred : Bool) :
    (Token.word name starred).brings c = readingTally c name := rfl

@[simp] theorem Token.brings_symbol (d : Char) :
    (Token.symbol d).brings c = readingTally c [d] := rfl

/-- Arguments are set into a phrase once at most. -/
theorem count_fill_le (pieces vs : List Text) :
    (fill pieces vs).count c ≤ pieces.flatten.count c + vs.flatten.count c := by
  fun_induction fill pieces vs with
  | case1 => simp
  | case2 => simp
  | case3 piece next pieces ih =>
    simp only [List.flatten_cons, List.count_append] at ih ⊢
    omega
  | case4 piece next pieces v vs ih =>
    simp only [List.flatten_cons, List.count_append] at ih ⊢
    omega

theorem Waiting.count_spoken_le (w : Waiting) :
    w.spoken.count c ≤ w.phrase.tally c + w.arguments.flatten.count c := by
  have hfill := count_fill_le c w.phrase.pieces w.arguments.reverse
  have harguments : w.arguments.reverse.flatten.count c = w.arguments.flatten.count c := by
    simp [List.count_flatten, List.sum_reverse]
  rw [harguments] at hfill
  simpa [spoken, Phrase.tally] using hfill

namespace State

theorem tally_say (s : State) (t : Text) : (s.say t).tally c = s.tally c + t.count c := by
  simp only [tally, say, List.count_append, List.count_reverse]
  omega

theorem tally_wait (s : State) (w : Waiting) :
    (s.wait w).tally c = s.done.count c + (s.opens.map (Open.tally c)).sum + w.tally c := rfl

theorem tally_of_waiting {s : State} {w : Waiting} (h : s.waiting = some w) :
    s.tally c = s.done.count c + (s.opens.map (Open.tally c)).sum + w.tally c := by
  rw [tally, h]
  rfl

theorem tally_enclose (s : State) (o : Open) :
    (s.enclose o).tally c = o.tally c + (s.opens.map (Open.tally c)).sum := by
  simp [tally, enclose]

theorem tally_settle_le (s : State) : s.settle.tally c ≤ s.tally c := by
  cases hw : s.waiting with
  | none => exact Nat.le_of_eq (congrArg (tally c) (settle_of_free hw))
  | some w =>
    have hspoken := w.count_spoken_le c
    rw [tally_of_waiting c hw, Waiting.tally]
    simp only [settle, hw, tally, List.count_append, Option.map_none, Option.getD_none]
    omega

theorem tally_supply_le (s : State) (w : Waiting) (t : Text) :
    (s.supply w t).tally c ≤ (s.wait w).tally c + t.count c := by
  have hspoken := Waiting.count_spoken_le c
    { w with arguments := t :: w.arguments, fresh := false, blanks := [] }
  rw [tally_wait, Waiting.tally]
  unfold supply
  dsimp only at hspoken ⊢
  rw [List.flatten_cons, List.count_append] at hspoken
  split
  · simp only [tally, Waiting.tally, List.flatten_cons, List.count_append, List.count_nil,
      Option.map_some, Option.getD_some]
    omega
  · simp only [tally, List.count_append, Option.map_none, Option.getD_none]
    omega

theorem tally_meet_le (s : State) (name : Text) :
    (s.meet name).tally c ≤ s.tally c + readingTally c name := by
  cases hr : reading? name with
  | none => simp [meet, readingTally, hr]
  | some r =>
    cases r with
    | text t => simp [meet, readingTally, Reading.tally, hr, tally_say]
    | phrase p =>
      have hmeet : s.meet name = s.wait { phrase := p } := by simp [meet, hr, wait]
      rw [hmeet, tally_wait, readingTally, hr, tally]
      simp [Waiting.tally, Reading.tally]

theorem tally_close_le {s s' : State} (h : s.close = .ok s') : s'.tally c ≤ s.tally c := by
  obtain ⟨done, opens, waiting, position⟩ := s
  cases opens with
  | nil => cases h
  | cons o opens =>
    cases o with
    | group before =>
      cases h
      simp only [tally, Open.tally, List.count_append, List.map_cons, List.sum_cons]
      omega
    | argument before w =>
      cases h
      have hsupply := tally_supply_le c ⟨before, opens, waiting, position⟩ w done.reverse
      rw [tally_wait, List.count_reverse] at hsupply
      simp only [tally, Open.tally, List.map_cons, List.sum_cons] at hsupply ⊢
      omega
    | option before p => cases h

theorem tally_hear_le (s : State) (d : Char) : (s.hear d).tally c ≤ s.tally c + [d].count c := by
  by_cases hclosed : s.inOption = true → d ≠ ']'
  · rw [hear_eq_say hclosed]
    exact Nat.le_of_eq (tally_say c s [d])
  · obtain ⟨hoption, rfl⟩ : s.inOption = true ∧ d = ']' := by simpa using hclosed
    obtain ⟨before, p, opens', hopens⟩ := exists_option_of_inOption hoption
    obtain ⟨done, opens, waiting, position⟩ := s
    obtain rfl : opens = _ := hopens
    simp only [hear, tally, Waiting.tally, Open.tally, List.flatten_nil, List.count_nil,
      List.map_cons, List.sum_cons, Option.map_some, Option.getD_some]
    omega

theorem tally_stepFree_le {s s' : State} {k : Token} (h : s.stepFree k = .ok s') :
    s'.tally c ≤ s.tally c + k.brings c := by
  cases k with
  | char d =>
    cases h
    exact tally_hear_le c s d
  | tie =>
    cases h
    exact Nat.le_of_eq (tally_say c s [' '])
  | opening =>
    cases h
    rw [tally_enclose, Open.tally, tally]
    omega
  | closing => exact tally_close_le c h
  | word name starred =>
    cases h
    exact tally_meet_le c s name
  | symbol d =>
    cases h
    exact tally_meet_le c s [d]
  | _ =>
    cases h
    exact Nat.le_refl _

theorem tally_stepWaiting_le {s s' : State} {w : Waiting} (hw : s.waiting = some w) {k : Token}
    (h : s.stepWaiting w k = .ok s') : s'.tally c ≤ s.tally c + k.brings c := by
  have htally := tally_of_waiting c hw
  rcases stepWaiting_cases h with
    ⟨-, rfl⟩ | ⟨-, -, rfl⟩ | ⟨d, rfl, -, rfl⟩ | ⟨d, rfl, -, rfl⟩ | h
  · rw [tally_enclose, Open.tally, htally]
    omega
  · rw [tally_enclose, Open.tally, htally, Waiting.tally]
    omega
  · rw [htally, tally_wait, Token.brings_char]
    simp only [Waiting.tally, List.count_cons, List.count_nil]
    omega
  · exact (tally_of_waiting c hw).symm ▸ tally_supply_le c s w [d]
  · exact Nat.le_trans (tally_stepFree_le c h) (Nat.add_le_add_right (tally_settle_le c s) _)

/-- **A state keeps no more than it kept before and a token brings.** -/
theorem tally_of_step {s s' : State} {k : Token} (h : s.step k = .ok s') :
    s'.tally c ≤ s.tally c + k.brings c := by
  cases hw : s.waiting with
  | none => exact tally_stepFree_le c (s := s.advance _) (step_of_free hw k ▸ h)
  | some w => exact tally_stepWaiting_le c (s := s.advance _) hw (step_of_waiting hw k ▸ h)

end State

end Tally

/-! ## Escapes -/

/-- The signs that have an escape of their own, which stands for them. -/
def escapable : List Char := ['\x7b', '\x7d', '$']

/-- How often a text holds the escape of a character, from a place on that is in a comment or not. A
backslash takes the character behind it, and a comment holds no escapes. -/
def escapeCountFrom (c : Char) : Bool → Text → Nat
  | _, [] => 0
  | true, d :: t => escapeCountFrom c (d != '\n') t
  | false, '%' :: t => escapeCountFrom c true t
  | false, ['\\'] => 0
  | false, '\\' :: d :: t => (if d = c then 1 else 0) + escapeCountFrom c false t
  | false, _ :: t => escapeCountFrom c false t

/-- How often a text holds the escape of a character. -/
def escapeCount (c : Char) (t : Text) : Nat := escapeCountFrom c false t

section Escapes

variable {c : Char} {rest : Text}

theorem escapeCount_plain {d : Char} (hcomment : d ≠ '%') (hbackslash : d ≠ '\\') (rest : Text) :
    escapeCount c (d :: rest) = escapeCount c rest := by
  simp [escapeCount, escapeCountFrom, hbackslash]

theorem escapeCount_letters {letters : Text} (h : ∀ d ∈ letters, d.isAlpha = true) (rest : Text) :
    escapeCount c (letters ++ rest) = escapeCount c rest := by
  induction letters with
  | nil => rfl
  | cons d letters ih =>
    have hd : d.isAlpha = true := h d (by simp)
    have hcomment : d ≠ '%' := by rintro rfl; revert hd; decide
    have hbackslash : d ≠ '\\' := by rintro rfl; revert hd; decide
    rw [List.cons_append, escapeCount_plain hcomment hbackslash,
      ih fun d hd => h d (List.mem_cons_of_mem _ hd)]

theorem escapeCountFrom_line {line : Text} (h : '\n' ∉ line) (rest : Text) :
    escapeCountFrom c true (line ++ rest) = escapeCountFrom c true rest := by
  induction line with
  | nil => rfl
  | cons d line ih =>
    have hd : d ≠ '\n' := fun e => h (by simp [e])
    have hin : (d != '\n') = true := by simpa using hd
    rw [List.cons_append, escapeCountFrom, hin, ih fun hl => h (List.mem_cons_of_mem _ hl)]

/-- **The escapes of a text are its tokens.** -/
theorem escapeCount_source_append (hc : c.isAlpha = false) {k : Token} (hk : k.Before rest) :
    escapeCount c (k.source ++ rest) = (if k = .symbol c then 1 else 0) + escapeCount c rest := by
  cases k with
  | char d =>
    have hd : d ≠ '%' ∧ d ≠ '\\' := by
      constructor <;> rintro rfl <;> exact hk (by decide)
    simpa [Token.source] using escapeCount_plain hd.1 hd.2 rest
  | tie => simpa [Token.source] using escapeCount_plain (by decide) (by decide) rest
  | math => simpa [Token.source] using escapeCount_plain (by decide) (by decide) rest
  | opening => simpa [Token.source] using escapeCount_plain (by decide) (by decide) rest
  | closing => simpa [Token.source] using escapeCount_plain (by decide) (by decide) rest
  | comment line ended =>
    obtain ⟨hline, hended⟩ := hk
    have hcomment (t : Text) : escapeCount c ('%' :: t) = escapeCountFrom c true t := rfl
    have hsymbol : Token.comment line ended ≠ .symbol c := by simp
    rw [Token.source, List.cons_append, List.cons_append, List.append_assoc, hcomment,
      escapeCountFrom_line hline, if_neg hsymbol, Nat.zero_add]
    cases ended with
    | true => rfl
    | false =>
      obtain rfl : rest = [] := by simpa using hended
      rfl
  | word name starred =>
    obtain ⟨hne, hletters, -⟩ := hk
    obtain ⟨d, letters, rfl⟩ := List.exists_cons_of_ne_nil hne
    have hd : d ≠ c := by
      rintro rfl
      exact absurd (hletters d (by simp)) (by simp [hc])
    have hescape (t : Text) : escapeCount c ('\\' :: d :: t) = escapeCount c t := by
      simp [escapeCount, escapeCountFrom, hd]
    have hsymbol : Token.word (d :: letters) starred ≠ .symbol c := by simp
    rw [Token.source, List.cons_append, List.cons_append, List.cons_append, List.cons_append,
      List.append_assoc, hescape, if_neg hsymbol, Nat.zero_add,
      escapeCount_letters fun d hd => hletters d (List.mem_cons_of_mem _ hd)]
    cases starred with
    | true => exact escapeCount_plain (by decide) (by decide) rest
    | false => rfl
  | symbol d => simp [Token.source, escapeCount, escapeCountFrom]
  | lone =>
    obtain rfl : rest = [] := hk
    rfl

/-- **There are no more escapes of a character than backslashes in front of it.** -/
theorem escapeCount_le_count_zip (c : Char) (t : Text) :
    escapeCount c t ≤ (t.zip t.tail).count ('\\', c) := by
  have hcons (d : Char) (t : Text) :
      (t.zip t.tail).count ('\\', c) ≤ ((d :: t).zip t).count ('\\', c) := by
    cases t with
    | nil => exact Nat.le_refl _
    | cons e t => exact (List.sublist_cons_self (d, e) _).count_le _
  have hfrom (b : Bool) : escapeCountFrom c b t ≤ (t.zip t.tail).count ('\\', c) := by
    fun_induction escapeCountFrom c b t with
    | case1 | case4 => exact Nat.zero_le _
    | case2 d t ih | case3 t ih | case6 d t _ _ _ ih => exact Nat.le_trans ih (hcons _ t)
    | case5 d t ih =>
      have hpair := hcons d t
      simp only [List.tail_cons, List.zip_cons_cons, List.count_cons, beq_iff_eq, Prod.mk.injEq,
        true_and] at hpair ⊢
      omega
  exact hfrom false

theorem escapeCount_eq_zero {t : Text} (h : '\\' ∉ t) : escapeCount c t = 0 := by
  have hfrom (b : Bool) : escapeCountFrom c b t = 0 := by
    fun_induction escapeCountFrom c b t <;> simp_all
  exact hfrom false

end Escapes

/-! ## What tokens bring -/

/-- A macro with a reading is in the table, or it is a Greek letter, which stands for its name. -/
theorem of_reading? {name : Text} {r : Reading} (h : reading? name = some r) :
    (∃ n, (n, r) ∈ readings ∧ n.toList = name) ∨
      ∃ g ∈ greekLetters, g.toList = name ∧ r = .text name := by
  unfold reading? at h
  split at h
  next n r' hfind =>
    obtain rfl : r' = r := by simpa using h
    exact Or.inl ⟨n, List.mem_of_find?_eq_some hfind, by simpa using List.find?_some hfind⟩
  next =>
    split at h
    next hany =>
      obtain ⟨g, hg, hname⟩ := List.any_eq_true.mp hany
      exact Or.inr ⟨g, hg, by simpa using hname, by simpa using h.symm⟩
    next => cases h

/-- A macro brings no sign but the one that it escapes. -/
theorem readingTally_le {c : Char} (hc : c ∈ specials) (name : Text) :
    readingTally c name ≤ if c ∈ escapable ∧ name = [c] then 1 else 0 := by
  have htable : ∀ c ∈ specials, ∀ r ∈ readings,
      r.2.tally c ≤ if c ∈ escapable ∧ r.1.toList = [c] then 1 else 0 :=
    List.all_iff_forall_prop.mp (by decide)
  have hgreek : ∀ c ∈ specials, ∀ g ∈ greekLetters, g.toList.count c = 0 :=
    List.all_iff_forall_prop.mp (by decide)
  rw [readingTally]
  cases hr : reading? name with
  | none => exact Nat.zero_le _
  | some r =>
    rcases of_reading? hr with ⟨n, hmem, rfl⟩ | ⟨g, hg, rfl, rfl⟩
    · exact htable c hc _ hmem
    · have hnone : (Reading.text g.toList).tally c = 0 := hgreek c hc g hg
      simp [hnone]

/-- **A sign is brought by its escape alone**, and by no other token of a text. -/
theorem Token.brings_le {c : Char} (hc : c ∈ specials) {k : Token} {rest : Text}
    (hk : k.Before rest) : k.brings c ≤ if c ∈ escapable ∧ k = .symbol c then 1 else 0 := by
  have hsign : ∀ c ∈ specials, c.isAlpha = false ∧ c ≠ ' ' :=
    List.all_iff_forall_prop.mp (by decide)
  cases k with
  | char d =>
    have hd : d ≠ c := fun e => hk (e ▸ hc)
    simp [hd]
  | tie => simp [Ne.symm (hsign c hc).2]
  | word name starred =>
    have hname : name ≠ [c] := by
      rintro rfl
      exact absurd (hk.2.1 c (by simp)) (by simp [(hsign c hc).1])
    simpa [hname] using readingTally_le hc name
  | symbol d => simpa using readingTally_le hc [d]
  | _ => exact Nat.zero_le _

/-! ## What is said of a text -/

/-- How many of a sign a text can leave behind. -/
def allowance (c : Char) (t : Text) : Nat := if c ∈ escapable then escapeCount c t else 0

theorem allowance_source_append {c : Char} (hc : c ∈ specials) {k : Token} {rest : Text}
    (hk : k.Before rest) : k.brings c + allowance c rest ≤ allowance c (k.source ++ rest) := by
  have hletter : ∀ c ∈ specials, c.isAlpha = false := List.all_iff_forall_prop.mp (by decide)
  have hbrings := Token.brings_le hc hk
  unfold allowance
  rw [escapeCount_source_append (hletter c hc) hk]
  by_cases hescapable : c ∈ escapable <;> simp_all

/-- **A text adds no more of a sign to a state than it holds escapes of it.** -/
theorem tally_of_read {c : Char} (hc : c ∈ specials) {s s' : State} {t : Text}
    (h : s.read t = .ok s') : s'.tally c ≤ s.tally c + allowance c t := by
  induction t using Token.induction generalizing s with
  | nil =>
    cases (State.read_nil s).symm.trans h
    exact Nat.le_add_right _ _
  | token k rest hk ih =>
    obtain ⟨s₁, hs, hrest⟩ := State.exists_step_of_read hk h
    have hstep := State.tally_of_step c hs
    have hread := ih hrest
    have hallowance := allowance_source_append hc hk
    omega

theorem count_le_allowance {c : Char} (hc : c ∈ specials) {t u : Text} (h : convert t = .ok u) :
    u.count c ≤ allowance c t := by
  obtain ⟨s, hread, -, rfl⟩ := exists_of_convert h
  have hstart : State.tally c {} = 0 := rfl
  have htally := tally_of_read hc hread
  have hsettle := State.tally_settle_le c s
  have hdone : s.settle.done.count c ≤ s.settle.tally c := by
    unfold State.tally
    omega
  rw [List.count_reverse]
  omega

/-- Characters that stand for themselves are read as they are. -/
theorem readAs_plain {t : Text} (h : ∀ c ∈ specials, c ∉ t) : ReadAs false t t := by
  induction t with
  | nil => exact ReadAs.nil.outside
  | cons c t ih =>
    have hc : c ∉ specials := fun hc => h c hc (by simp)
    have ht : ∀ d ∈ specials, d ∉ t := fun d hd hmem => h d hd (List.mem_cons_of_mem c hmem)
    exact ((ReadAs.char hc).append (ih ht)).outside

/-- **A text without signs is said as it is.** -/
theorem toText_of_plain {t : Text} (h : ∀ c ∈ specials, c ∉ t) : toText t = .ok t := by
  have hread := readAs_plain h {} [] rfl fun ho => by cases ho
  rw [List.append_nil, State.read_nil] at hread
  have hconvert : convert t = .ok t := by
    change (State.read {} t).bind State.finish = _
    rw [hread]
    simp [Except.bind, State.finish, State.say, State.advance, State.settle]
  rw [toText, hconvert]
  rfl

/-- **Which signs can be left in what is said.** A backslash, a sign of a comment or a tie never is,
and of the others no more than there are escapes of them, nor than there are backslashes right in
front of them. -/
theorem toText_signs (t : Text) :
    (∀ u, toText t = .ok u →
      ('\\' ∉ u ∧ '%' ∉ u ∧ '~' ∉ u) ∧
        (∀ c ∈ ['\x7b', '\x7d', '$'], u.count c ≤ escapeCount c t ∧
          u.count c ≤ (t.zip t.tail).count ('\\', c)) ∧
        ('\\' ∉ t → ∀ c ∈ specials, c ∉ u)) ∧
      ((∀ c ∈ specials, c ∉ t) → toText t = .ok t) := by
  refine ⟨fun u h => ?_, toText_of_plain⟩
  have hcount (c : Char) (hc : c ∈ specials) : u.count c ≤ allowance c t :=
    count_le_allowance hc (convert_of_toText h)
  have hnone (c : Char) (hc : c ∈ specials) (hallowance : allowance c t = 0) : c ∉ u :=
    List.count_eq_zero.mp (Nat.le_zero.mp (hallowance ▸ hcount c hc))
  refine ⟨⟨hnone _ (by decide) rfl, hnone _ (by decide) rfl, hnone _ (by decide) rfl⟩,
    fun c hc => ?_, fun hbackslash c hc => hnone c hc ?_⟩
  · have hspecial : escapable ⊆ specials := by decide
    have hescapable : c ∈ escapable := hc
    have hescapes : u.count c ≤ escapeCount c t := by
      simpa [allowance, hescapable] using hcount c (hspecial hescapable)
    exact ⟨hescapes, hescapes.trans (escapeCount_le_count_zip c t)⟩
  · simp [allowance, escapeCount_eq_zero hbackslash]

/-- Of three braces two are no escapes: one is in a comment, and one behind a line break. -/
theorem toText_signs_escaped :
    toText "%\\\x7b\n\\\\\x7b\\\x7b~$\x7d".toList = .ok "\n\x7b ".toList ∧
      ("\n\x7b ".toList).count '\x7b' ≤
        escapeCount '\x7b' "%\\\x7b\n\\\\\x7b\\\x7b~$\x7d".toList ∧
      escapeCount '\x7b' "%\\\x7b\n\\\\\x7b\\\x7b~$\x7d".toList = 1 := by
  have h : toText "%\\\x7b\n\\\\\x7b\\\x7b~$\x7d".toList = .ok "\n\x7b ".toList := by cbv
  exact ⟨h, (((toText_signs _).1 _ h).2.1 _ (by decide)).1, by decide⟩

end Lector.Latex
