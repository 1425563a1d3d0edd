import Lector.Proofs.Latex.Descent

/-!
# The descent and the conversion by tokens

The recursive descent and the conversion by tokens say the same. An activation is compared with a
state of the conversion that has said the same so far and stands at the same place. The two part in
two places. The conversion stands in front of a token while the descent is in the middle of it, and
the conversion keeps the white space in front of an argument where the descent goes back over it. So
they are not compared by what they have read but by what comes of the text in the end.

## Main definitions

* `State.outcome`: what comes of a text from a state on
* `Encloses`, `Nested`: the callers of a descent and the enclosures of a conversion
* `Activation.Mirrors`: an activation and a state of the conversion stand at the same place

## Main results

* `State.outcome_settle`: a macro is settled where it does not go on
* `State.outcome_supply_nil`: to go back over white space is to settle
* `Activation.move_mirrored`: a move keeps what comes of a text
-/

namespace Lector.Latex

/-! ## What comes of a text -/

/-- A macro that waits goes on with a character. -/
def Waiting.takes (w : Waiting) (c : Char) : Bool :=
  w.fresh && c = '[' || isBlank c || c = '\x7b' || isArgument c

/-- A place without an argument stays empty. -/
theorem fill_append_nil (pieces vs : List Text) : fill pieces (vs ++ [[]]) = fill pieces vs := by
  fun_induction fill pieces vs with
  | case1 => rfl
  | case2 => rfl
  | case3 piece next pieces => simp [fill]
  | case4 piece next pieces v vs ih => simp [fill, ih]

theorem Waiting.spoken_nil_cons (w : Waiting) (fresh : Bool) (blanks : Text) :
    Waiting.spoken ⟨w.phrase, [] :: w.arguments, fresh, blanks⟩ = w.spoken := by
  simp [Waiting.spoken, fill_append_nil]

theorem not_special_of_isBlank {c : Char} (h : isBlank c = true) : c ∉ specials ∧ c ≠ ']' := by
  have hnone : ∀ d ∈ ']' :: specials, isBlank d = false := by simp [specials]; decide
  refine ⟨fun hc => ?_, fun hc => ?_⟩
  · exact absurd (hnone c (List.mem_cons_of_mem _ hc)) (by simp [h])
  · exact absurd (hnone c (hc ▸ List.mem_cons_self)) (by simp [h])

/-- White space is read as itself, also in an option. -/
theorem readAs_blanks {b : Text} (hb : ∀ c ∈ b, isBlank c = true) : ReadAs true b b := by
  induction b with
  | nil => exact ReadAs.nil
  | cons c b ih =>
    obtain ⟨hc, hb⟩ := List.forall_mem_cons.mp hb
    obtain ⟨hspecial, hbracket⟩ := not_special_of_isBlank hc
    simpa [hbracket] using (ReadAs.char hspecial).append (ih hb)

namespace State

variable {s s' : State} {w : Waiting} {u rest b : Text} {k : Token}

@[simp] theorem opens_meet (s : State) (name : Text) : (s.meet name).opens = s.opens := by
  unfold meet
  split <;> rfl

@[simp] theorem opens_supply (s : State) (w : Waiting) (v : Text) :
    (s.supply w v).opens = s.opens := by
  unfold supply
  dsimp only
  split <;> rfl

/-- What comes of a text from a state on. -/
def outcome (s : State) (u : Text) : Except Fault Text := (s.read u).bind State.finish

theorem outcome_nil (s : State) : s.outcome [] = s.finish := by
  rw [outcome, read_nil]
  rfl

theorem outcome_source_append (s : State) (hk : k.Before rest) :
    s.outcome (k.source ++ rest) = (s.step k).bind fun s => s.outcome rest := by
  rw [outcome, read_source_append s hk]
  cases s.step k <;> rfl

theorem outcome_of_step (hk : k.Before rest) (hs : s.step k = .ok s') :
    s.outcome (k.source ++ rest) = s'.outcome rest := by
  rw [outcome_source_append s hk, hs]
  rfl

theorem outcome_of_step_error (hk : k.Before rest) {f : Fault} (hs : s.step k = .error f) :
    s.outcome (k.source ++ rest) = .error f := by
  rw [outcome_source_append s hk, hs]
  rfl

@[simp] theorem settle_settle (s : State) : s.settle.settle = s.settle :=
  settle_of_free s.waiting_settle

theorem advance_settle (s : State) (n : Nat) : s.settle.advance n = (s.advance n).settle := by
  obtain ⟨done, opens, waiting, position⟩ := s
  cases waiting <;> rfl

theorem finish_settle (s : State) : s.settle.finish = s.finish := by
  unfold finish
  rw [opens_settle, settle_settle, position_settle]

/-- A character that a macro does not go on with is converted as if none waited. -/
theorem step_char_settled {c : Char} (hw : s.waiting = some w) (hc : w.takes c = false) :
    s.step (.char c) = s.settle.step (.char c) := by
  simp only [Waiting.takes, Bool.or_eq_false_iff] at hc
  obtain ⟨⟨⟨hoption, hblank⟩, -⟩, hargument⟩ := hc
  rw [step_of_waiting hw, step_of_free s.waiting_settle, advance_settle]
  simp [stepWaiting, hoption, hblank, hargument]

/-- A token that goes on with no macro settles one that waits. -/
theorem step_settle (s : State) (hopening : k ≠ .opening) (hchar : ∀ c, k ≠ .char c) :
    s.step k = s.settle.step k := by
  rw [s.step_settled hopening hchar, s.settle.step_settled hopening hchar, advance_settle,
    settle_settle]

/-- Where a macro does not go on, it is settled. -/
theorem outcome_settle (hw : s.waiting = some w)
    (hu : ∀ c, u.head? = some c → w.takes c = false) : s.outcome u = s.settle.outcome u := by
  cases u with
  | nil => rw [outcome_nil, outcome_nil, finish_settle]
  | cons c u =>
    have hc : w.takes c = false := hu c rfl
    obtain ⟨rest, hs, hb⟩ := exists_source_append c u
    generalize firstToken c u = k at hs hb
    rw [← hs, outcome_source_append s hb, outcome_source_append _ hb]
    congr 1
    -- Only a brace and a character can go on with a macro, and the first character tells both.
    cases k with
    | opening =>
      obtain rfl : '\x7b' = c := (List.cons.inj hs).1
      simp [Waiting.takes] at hc
    | char d =>
      obtain rfl : d = c := (List.cons.inj hs).1
      exact step_char_settled hw hc
    | _ => exact s.step_settle (by simp) (by simp)

/-- White space in front of an argument is skipped. -/
theorem outcome_blanks_waiting (hb : ∀ c ∈ b, isBlank c = true) (hw : w.fresh = false) :
    (s.wait w).outcome (b ++ u) =
      ((s.advance b.length).wait { w with blanks := b.reverse ++ w.blanks }).outcome u := by
  induction b generalizing s w with
  | nil => rfl
  | cons c b ih =>
    obtain ⟨hc, hb⟩ := List.forall_mem_cons.mp hb
    have hstep : (s.wait w).step (.char c) =
        .ok ((s.advance 1).wait { w with blanks := c :: w.blanks }) := by
      rw [step_of_waiting (w := w) rfl]
      simp [stepWaiting, hw, hc, wait, advance, Token.source]
    have hbefore : (Token.char c).Before (b ++ u) := (not_special_of_isBlank hc).1
    rw [List.cons_append]
    refine (outcome_of_step hbefore hstep).trans ?_
    rw [ih hb (by exact hw), advance_advance, List.length_cons, Nat.add_comm 1]
    simp

/-- **To go back over white space is to settle.** The macro gets an empty argument, and the white
space is read again. -/
theorem outcome_supply_nil (hw : s.waiting = some w)
    (hu : ∀ c, u.head? = some c → w.takes c = false) (hb : ∀ c ∈ w.blanks, isBlank c = true)
    {start : Nat} (hstart : w.blanks.length + start = s.position) :
    (({ s with position := start } : State).supply w []).outcome (w.blanks.reverse ++ u) =
      s.outcome u := by
  have hreverse : ∀ c ∈ w.blanks.reverse, isBlank c = true := by simpa using hb
  have hspoken := w.spoken_nil_cons false []
  rw [outcome_settle hw hu]
  unfold supply
  dsimp only
  split
  next =>
    let w' : Waiting := { w with arguments := [] :: w.arguments, fresh := false, blanks := [] }
    have hskipped := outcome_blanks_waiting (s := { s with position := start }) (u := u) (w := w')
      hreverse rfl
    refine hskipped.trans ?_
    rw [outcome_settle rfl]
    · congr 1
      simp [settle, hw, wait, advance, w', ← hstart, Nat.add_comm start, w.spoken_nil_cons]
    · intro c hc
      have hnone := hu c hc
      simp only [Waiting.takes, Bool.or_eq_false_iff] at hnone ⊢
      exact ⟨⟨⟨by simp [w'], hnone.1.1.2⟩, hnone.1.2⟩, hnone.2⟩
  next =>
    rw [outcome, readAs_blanks hreverse _ u rfl fun _ => rfl]
    refine congrArg (fun s : State => (s.read u).bind finish) ?_
    simp [settle, hw, say, advance, ← hstart, Nat.add_comm start, hspoken]

end State

/-! ## Callers and enclosures -/

/-- An activation calls another one that reads up to a mark, and an enclosure is opened. -/
inductive Encloses (a : Activation) : Char → Open → Prop
  | group (h : a.task = .read) : Encloses a '\x7d' (.group a.said)
  | option {p : Phrase} (h : a.task = .option p) : Encloses a ']' (.option a.said p)
  | argument {w : Waiting} {start : Nat} (h : a.task = .argument w.phrase w.arguments start) :
    Encloses a '\x7d' (.argument a.said w)

/-- The callers of an activation that reads up to a mark have opened the enclosures of a place. -/
inductive Nested : Option Char → List Activation → List Open → Prop
  | outermost : Nested none [] []
  | inner {a : Activation} {mark : Char} {o : Open} {callers : List Activation} {opens : List Open}
      (h : Nested a.closing callers opens) (ho : Encloses a mark o) :
      Nested (some mark) (a :: callers) (o :: opens)

namespace Nested

variable {closing : Option Char} {callers : List Activation} {opens : List Open} {mark : Char}
  {s : State}

theorem of_none (h : Nested none callers opens) : callers = [] ∧ opens = [] := by
  cases h
  exact ⟨rfl, rfl⟩

theorem of_some (h : Nested (some mark) callers opens) : ∃ a o callers' opens',
    callers = a :: callers' ∧ opens = o :: opens' ∧ Nested a.closing callers' opens' ∧
      Encloses a mark o := by
  cases h with
  | inner h ho => exact ⟨_, _, _, _, rfl, rfl, h, ho⟩

theorem finish_of_none (h : Nested none callers s.opens) (hw : s.waiting = none) :
    s.finish = .ok s.done.reverse := by
  obtain ⟨-, hopens⟩ := h.of_none
  simp [State.finish, hopens, State.settle_of_free hw]

/-- At the end of the text, the closing mark is missing. -/
theorem finish_of_some (h : Nested (some mark) callers s.opens) :
    s.finish = .error ⟨.missing mark, s.position⟩ := by
  obtain ⟨a, o, callers', opens', -, hopens, -, ho⟩ := h.of_some
  cases ho <;> simp [State.finish, hopens]

/-- A closing brace that closes nothing is unbalanced. -/
theorem close_eq_error (h : Nested closing callers s.opens) (hc : closing ≠ some '\x7d') :
    s.close = .error ⟨.unbalanced, s.position⟩ := by
  cases closing with
  | none =>
    obtain ⟨-, hopens⟩ := h.of_none
    simp [State.close, hopens]
  | some mark =>
    obtain ⟨a, o, callers', opens', -, hopens, -, ho⟩ := h.of_some
    cases ho with
    | group => exact absurd rfl hc
    | option => simp [State.close, hopens]
    | argument => exact absurd rfl hc

/-- In an option, a bracket is the closing mark. -/
theorem closing_of_inOption (h : Nested closing callers s.opens) (ho : s.inOption = true) :
    closing = some ']' := by
  cases closing with
  | none =>
    obtain ⟨-, hopens⟩ := h.of_none
    simp [State.inOption, hopens] at ho
  | some mark =>
    obtain ⟨a, o, callers', opens', -, hopens, -, hencloses⟩ := h.of_some
    cases hencloses with
    | group => simp [State.inOption, hopens] at ho
    | option => rfl
    | argument => simp [State.inOption, hopens] at ho

end Nested

/-- A task at a position and a state of the conversion in front of a text stand at the same place.
In the middle of a token, the state stands in front of it. -/
def Task.Mirrors (t : Text) (position : Nat) (s : State) (u : Text) : Task → Prop
  | read => s.waiting = none ∧ s.position = position ∧ u = t.drop position
  | comment => s.waiting = none ∧ ∃ line, '\n' ∉ line ∧ u = '%' :: line ++ t.drop position ∧
      s.position + (line.length + 1) = position
  | escape => s.waiting = none ∧ u = '\\' :: t.drop position ∧ s.position + 1 = position
  | name letters => s.waiting = none ∧ letters ≠ [] ∧ (∀ c ∈ letters, c.isAlpha = true) ∧
      u = '\\' :: letters ++ t.drop position ∧ s.position + (letters.length + 1) = position
  | option p => s.waiting = some { phrase := p } ∧ s.position = position ∧ u = t.drop position
  | argument p values start => s.position = position ∧ u = t.drop position ∧
      ∃ w, s.waiting = some w ∧ w.phrase = p ∧ w.arguments = values ∧
        (w.fresh = true → t[position]? ≠ some '[') ∧ (∀ c ∈ w.blanks, isBlank c = true) ∧
        w.blanks.length + start = position ∧ t.drop start = w.blanks.reverse ++ t.drop position

/-- An activation and a state of the conversion say the same and stand at the same place. -/
structure Activation.Mirrors (t : Text) (position : Nat) (s : State) (u : Text)
    (a : Activation) : Prop where
  said : s.done = a.said
  task : a.task.Mirrors t position s u

/-- An activation goes on where a conversion within enclosures has an outcome. -/
def Activation.Follows (t : Text) (position : Nat) (opens : List Open)
    (result : Except Fault Text) (a : Activation) : Prop :=
  ∃ s u, a.Mirrors t position s u ∧ s.opens = opens ∧ s.outcome u = result

/-- What comes of a text is kept by a move of an activation. -/
def Move.Mirrored (t : Text) (position : Nat) (a : Activation) (opens : List Open)
    (result : Except Fault Text) : Move → Prop
  | go n b => b.Follows t n opens result
  | call mark => ∃ o, Encloses a mark o ∧
      State.outcome { opens := o :: opens, position := position + 1 } (t.drop (position + 1)) =
        result
  | leave => a.task = .read
  | stop result' => result' = result

namespace Activation

variable {t u rest : Text} {position start : Nat} {a b : Activation} {s s' : State} {k : Token}
  {w : Waiting} {callers : List Activation} {opens : List Open} {p : Phrase} {values : List Text}

theorem Mirrors.follows (hb : b.Mirrors t position s' rest) (hopens : s'.opens = s.opens)
    (hk : k.Before rest) (hs : s.step k = .ok s') :
    b.Follows t position s.opens (s.outcome (k.source ++ rest)) :=
  ⟨s', rest, hb, hopens, (State.outcome_of_step hk hs).symm⟩

theorem mirrors_read (hw : s.waiting = none) (hsaid : s.done = b.said) (hb : b.task = .read)
    (hposition : s.position = position) : b.Mirrors t position s (t.drop position) where
  said := hsaid
  task := by rw [hb]; exact ⟨hw, hposition, rfl⟩

/-- A macro is met alike. -/
theorem mirrors_meet (hw : s.waiting = none) (hsaid : s.done = a.said)
    (hposition : s.position = position) (name : Text) :
    (a.meet name).Mirrors t position (s.meet name) (t.drop position) := by
  unfold Activation.meet State.meet
  cases reading? name with
  | none => exact mirrors_read hw hsaid rfl hposition
  | some r =>
    cases r with
    | text v => exact mirrors_read hw (by simp [State.say, say, hsaid]) rfl hposition
    | phrase p => exact ⟨hsaid, rfl, hposition, rfl⟩

/-- An argument is supplied alike. -/
theorem mirrors_ask (hsaid : s.done = a.said) (hposition : s.position = position) (w : Waiting)
    (v : Text) : (a.ask w.phrase (v :: w.arguments) position).Mirrors t position (s.supply w v)
      (t.drop position) := by
  unfold Activation.ask State.supply
  dsimp only
  split
  next hmore =>
    exact ⟨hsaid, hposition, rfl, _, rfl, rfl, rfl, by simp, by simp, Nat.zero_add _, rfl⟩
  next hmore =>
    exact mirrors_read rfl (by simp [Waiting.spoken, say, hsaid]) rfl hposition

/-! ## The moves of the tasks -/

theorem mirrored_read (h : a.Mirrors t position s u) (ha : a.task = .read)
    (hn : Nested a.closing callers s.opens) :
    (a.move position t[position]?).Mirrored t position a s.opens (s.outcome u) := by
  obtain ⟨hw, hposition, rfl⟩ : Task.read.Mirrors t position s u := ha ▸ h.task
  rcases ahead_cases t position with ⟨hnext, hahead⟩ | ⟨c, u, hnext, hahead, hrest, -⟩
  · rw [hnext, hahead, State.outcome_nil]
    simp only [move, ha]
    cases hc : a.closing with
    | none =>
      rw [Nested.finish_of_none (hc ▸ hn) hw, h.said]
      rfl
    | some mark =>
      rw [Nested.finish_of_some (hc ▸ hn), hposition]
      rfl
  rw [hnext, hahead]
  simp only [move, ha]
  have hpass {b : Activation} {s' : State} {k : Token} (hk : k.Before u) (hsource : k.source = [c])
      (hs : (s.advance 1).stepFree k = .ok s') (hopens : s'.opens = s.opens)
      (hwaiting : s'.waiting = none) (hsaid : s'.done = b.said) (hb : b.task = .read)
      (hplace : s'.position = position + 1) :
      b.Follows t (position + 1) s.opens (s.outcome (c :: u)) := by
    have hmirrors := mirrors_read hwaiting hsaid hb hplace (t := t)
    rw [hrest] at hmirrors
    have hstep : s.step k = .ok s' := by
      rw [State.step_of_free hw, hsource]
      exact hs
    have hfollows := hmirrors.follows hopens hk hstep
    rwa [hsource] at hfollows
  have hplace : (s.advance 1).position = position + 1 := congrArg (· + 1) hposition
  split
  next => exact ha
  -- What closes the activation has been looked for, so another closing brace closes nothing.
  split
  next hclosing hc =>
    subst hc
    have hclose : s.step .closing = .error ⟨.unbalanced, position + 1⟩ := by
      rw [State.step_of_free hw]
      show (s.advance 1).close = _
      rw [Nested.close_eq_error (s := s.advance 1) hn hclosing, hplace]
    exact (State.outcome_of_step_error (k := .closing) trivial hclose).symm
  split
  next hc =>
    subst hc
    refine ⟨_, .group ha, ?_⟩
    have hstep : s.step .opening = .ok ((s.advance 1).enclose (.group s.done)) :=
      State.step_of_free hw _
    rw [hrest, ← h.said, ← hplace]
    exact (State.outcome_of_step (k := .opening) trivial hstep).symm
  split
  next hc =>
    -- The state stays in front of the comment until it is over.
    subst hc
    exact ⟨s, _, ⟨h.said, hw, [], by simp, by rw [hrest]; rfl, by simp [hposition]⟩, rfl, rfl⟩
  split
  next hc =>
    subst hc
    exact hpass (k := .tie) trivial rfl rfl rfl hw (congrArg (' ' :: ·) h.said) rfl hplace
  split
  next hc =>
    subst hc
    exact hpass (k := .math) trivial rfl rfl rfl hw h.said ha hplace
  split
  next hc =>
    subst hc
    exact ⟨s, _, ⟨h.said, hw, by rw [hrest], by rw [hposition]⟩, rfl, rfl⟩
  next hclosing hcb hob hpc hti hma hbs =>
    have hspecial : c ∉ specials := by simp [specials, *]
    have hhear : (s.advance 1).hear c = (s.advance 1).say [c] := by
      refine State.hear_eq_say fun ho hc => ?_
      exact hclosing (hc ▸ hn.closing_of_inOption ho)
    exact hpass (k := .char c) hspecial rfl (congrArg Except.ok hhear) rfl hw
      (congrArg (c :: ·) h.said) rfl hplace

theorem mirrored_comment (h : a.Mirrors t position s u) (ha : a.task = .comment) :
    (a.move position t[position]?).Mirrored t position a s.opens (s.outcome u) := by
  obtain ⟨hw, line, hline, rfl, hposition⟩ : Task.comment.Mirrors t position s u := ha ▸ h.task
  rcases ahead_cases t position with ⟨hnext, hahead⟩ | ⟨c, u, hnext, hahead, hrest, -⟩
  · rw [hnext, hahead]
    simp only [move, ha]
    have hmirrors := mirrors_read (s := s.advance (line.length + 1)) (t := t)
      (b := { a with task := .read }) hw h.said rfl hposition
    rw [hahead] at hmirrors
    have hstep : s.step (.comment line false) = .ok (s.advance (line.length + 1)) := by
      rw [State.step_of_free hw]
      simp [State.stepFree, Token.source]
    change Follows t position s.opens _ _
    simpa [Token.source] using hmirrors.follows (s := s) rfl (k := .comment line false)
      ⟨hline, .inr rfl⟩ hstep
  rw [hnext, hahead]
  simp only [move, ha]
  split
  next hc =>
    subst hc
    have hmirrors := mirrors_read (s := s.advance (line.length + 2)) (t := t)
      (b := { a with task := .read }) hw h.said rfl (congrArg (· + 1) hposition)
    rw [hrest] at hmirrors
    have hstep : s.step (.comment line true) = .ok (s.advance (line.length + 2)) := by
      rw [State.step_of_free hw]
      simp [State.stepFree, Token.source]
    change Follows t (position + 1) s.opens _ _
    simpa [Token.source] using hmirrors.follows (s := s) rfl (k := .comment line true)
      ⟨hline, .inl rfl⟩ hstep
  next hc =>
    refine ⟨s, _, ⟨h.said, ?_⟩, rfl, rfl⟩
    rw [ha]
    refine ⟨hw, line ++ [c], ?_, ?_, ?_⟩
    · simpa [hline] using Ne.symm hc
    · simp [hrest]
    · rw [List.length_append, ← hposition]
      rfl

theorem mirrored_escape (h : a.Mirrors t position s u) (ha : a.task = .escape) :
    (a.move position t[position]?).Mirrored t position a s.opens (s.outcome u) := by
  obtain ⟨hw, rfl, hposition⟩ : Task.escape.Mirrors t position s u := ha ▸ h.task
  rcases ahead_cases t position with ⟨hnext, hahead⟩ | ⟨c, u, hnext, hahead, hrest, -⟩
  · rw [hnext, hahead]
    simp only [move, ha]
    have hmirrors := mirrors_read (s := s.advance 1) (t := t) (b := { a with task := .read }) hw
      h.said rfl hposition
    rw [hahead] at hmirrors
    exact hmirrors.follows rfl (k := .lone) rfl (State.step_of_free hw _)
  rw [hnext, hahead]
  simp only [move, ha]
  split
  next hc =>
    refine ⟨s, _, ⟨h.said, hw, by simp, by simpa using hc, ?_, ?_⟩, rfl, rfl⟩
    · rw [hrest]
      rfl
    · rw [← hposition]
      rfl
  next hc =>
    have hmirrors := mirrors_meet (s := s.advance 2) (t := t) hw h.said
      (congrArg (· + 1) hposition) [c]
    rw [hrest] at hmirrors
    exact hmirrors.follows (State.opens_meet _ _) (k := .symbol c) (eq_false_of_ne_true hc)
      (State.step_of_free hw _)

theorem mirrored_name (h : a.Mirrors t position s u) {letters : Text}
    (ha : a.task = .name letters) :
    (a.move position t[position]?).Mirrored t position a s.opens (s.outcome u) := by
  obtain ⟨hw, hne, hletters, rfl, hposition⟩ : (Task.name letters).Mirrors t position s u :=
    ha ▸ h.task
  have hend (hnext : ∀ c, t[position]? = some c → c.isAlpha = false ∧ c ≠ '*') :
      (a.meet letters).Follows t position s.opens
        (s.outcome ('\\' :: letters ++ t.drop position)) := by
    have hmirrors := mirrors_meet (s := s.advance (letters.length + 1)) (t := t) hw h.said
      hposition letters
    have hbefore : (Token.word letters false).Before (t.drop position) :=
      ⟨hne, hletters, .inr fun c hc => hnext c (List.head?_drop ▸ hc)⟩
    have hstep : s.step (.word letters false) =
        .ok ((s.advance (letters.length + 1)).meet letters) := by
      rw [State.step_of_free hw]
      simp [State.stepFree, Token.source]
    simpa [Token.source] using hmirrors.follows (s := s) (State.opens_meet _ _) hbefore hstep
  rcases ahead_cases t position with ⟨hnext, hahead⟩ | ⟨c, u, hnext, hahead, hrest, -⟩
  · rw [hnext]
    simp only [move, ha]
    exact hend (by simp [hnext])
  rw [hnext]
  simp only [move, ha]
  split
  next hc =>
    refine ⟨s, _, ⟨h.said, hw, by simp, ?_, ?_, ?_⟩, rfl, rfl⟩
    · simpa [or_imp, forall_and, hc] using hletters
    · rw [hahead, hrest]
      simp
    · rw [List.length_append, ← hposition]
      rfl
  split
  next hc =>
    subst hc
    have hmirrors := mirrors_meet (s := s.advance (letters.length + 2)) (t := t) hw h.said
      (congrArg (· + 1) hposition) letters
    have hstep : s.step (.word letters true) =
        .ok ((s.advance (letters.length + 2)).meet letters) := by
      rw [State.step_of_free hw]
      simp [State.stepFree, Token.source]
    rw [hahead]
    rw [hrest] at hmirrors
    change Follows t (position + 1) s.opens _ _
    simpa [Token.source] using hmirrors.follows (s := s) (State.opens_meet _ _)
      (k := .word letters true) ⟨hne, hletters, .inl rfl⟩ hstep
  next hletter hstar =>
    refine hend fun d hd => ?_
    obtain rfl : c = d := Option.some.inj (hnext.symm.trans hd)
    exact ⟨eq_false_of_ne_true hletter, hstar⟩

theorem mirrored_option (h : a.Mirrors t position s u) (ha : a.task = .option p)
    (hp : 0 < p.arguments) :
    (a.move position t[position]?).Mirrored t position a s.opens (s.outcome u) := by
  obtain ⟨hw, hposition, rfl⟩ : (Task.option p).Mirrors t position s u := ha ▸ h.task
  simp only [move, ha]
  split
  next hnext =>
    obtain ⟨hlt, hc⟩ := List.getElem?_eq_some_iff.mp hnext
    have hahead : t.drop position = '[' :: t.drop (position + 1) := by
      rw [List.drop_eq_getElem_cons hlt, hc]
    refine ⟨_, .option ha, ?_⟩
    have hstep : s.step (.char '[') = .ok ((s.advance 1).enclose (.option s.done p)) := by
      rw [State.step_of_waiting hw]
      simp [State.stepWaiting, State.enclose, State.advance, Token.source]
    rw [hahead, ← h.said, ← hposition]
    exact (State.outcome_of_step (Token.before_char (by decide) _) hstep).symm
  next hnext =>
    -- The state goes on waiting for an option, but none comes while the bracket is not next.
    refine ⟨s, _, ⟨?_, ?_⟩, rfl, rfl⟩
    · rw [Activation.ask, if_pos (by exact hp)]
      exact h.said
    · rw [Activation.ask, if_pos (by exact hp)]
      exact ⟨hposition, rfl, _, hw, rfl, rfl, fun _ => hnext, by simp, Nat.zero_add _, rfl⟩

theorem mirrored_argument (h : a.Mirrors t position s u) (ha : a.task = .argument p values start) :
    (a.move position t[position]?).Mirrored t position a s.opens (s.outcome u) := by
  obtain ⟨hposition, rfl, w, hw, rfl, rfl, hfresh, hblanks, hlength, hdrop⟩ :
    (Task.argument p values start).Mirrors t position s u := ha ▸ h.task
  -- Where no argument comes, the white space that was passed is read again behind an empty one.
  have hback (hnext : ∀ c, t[position]? = some c → w.takes c = false) :
      (a.ask w.phrase ([] :: w.arguments) start).Follows t start s.opens
        (s.outcome (t.drop position)) := by
    let s₀ : State := { s with position := start }
    refine ⟨s₀.supply w [], _, mirrors_ask (s := s₀) h.said rfl w [], State.opens_supply _ _ _, ?_⟩
    rw [hdrop]
    exact State.outcome_supply_nil hw (fun c hc => hnext c (List.head?_drop ▸ hc)) hblanks
      (hposition ▸ hlength)
  rcases ahead_cases t position with ⟨hnext, hahead⟩ | ⟨c, u, hnext, hahead, hrest, -⟩
  · rw [hnext]
    simp only [move, ha]
    exact hback (by simp [hnext])
  rw [hnext]
  simp only [move, ha]
  -- No option begins here, since the descent has looked for one already.
  have hbracket : (w.fresh && decide (c = '[')) = false := by
    cases hf : w.fresh with
    | false => rfl
    | true => simpa [hnext] using hfresh hf
  split
  next hblank =>
    have hspecial : c ∉ specials := (not_special_of_isBlank hblank).1
    have hstep : s.step (.char c) = .ok ((s.advance 1).wait
        { w with fresh := false, blanks := c :: w.blanks }) := by
      rw [State.step_of_waiting hw]
      simp [State.stepWaiting, hbracket, hblank, State.wait, State.advance, Token.source]
    have hmirrors : a.Mirrors t (position + 1)
        ((s.advance 1).wait { w with fresh := false, blanks := c :: w.blanks }) u := by
      refine ⟨h.said, ?_⟩
      rw [ha]
      refine ⟨congrArg (· + 1) hposition, hrest.symm, _, rfl, rfl, rfl, by simp, ?_, ?_, ?_⟩
      · exact List.forall_mem_cons.mpr ⟨hblank, hblanks⟩
      · rw [List.length_cons, ← hlength, Nat.add_right_comm]
      · rw [hdrop, hahead, hrest]
        simp
    rw [hahead]
    exact hmirrors.follows rfl (k := .char c) hspecial hstep
  next hblank =>
    have hblank : isBlank c = false := eq_false_of_ne_true hblank
    split
    next hc =>
      subst hc
      refine ⟨_, .argument ha, ?_⟩
      have hstep : s.step .opening = .ok ((s.advance 1).enclose (.argument s.done w)) :=
        State.step_of_waiting hw _
      rw [hahead, hrest, ← h.said, ← hposition]
      exact (State.outcome_of_step (k := .opening) trivial hstep).symm
    next hbrace =>
      split
      next hargument =>
        have hspecial : c ∉ specials := by
          have hnone : ∀ d ∈ specials, isArgument d = false := by simp [specials]; decide
          intro hc
          simp [hnone c hc] at hargument
        have hstep : s.step (.char c) = .ok ((s.advance 1).supply w [c]) := by
          rw [State.step_of_waiting hw]
          simp [State.stepWaiting, hbracket, hblank, hargument, Token.source]
        have hmirrors := mirrors_ask (s := s.advance 1) (t := t) h.said
          (congrArg (· + 1) hposition) w [c]
        rw [hahead]
        rw [hrest] at hmirrors
        exact hmirrors.follows (State.opens_supply _ _ _) (k := .char c) hspecial hstep
      next hargument =>
        refine hback fun d hd => ?_
        obtain rfl : c = d := Option.some.inj (hnext.symm.trans hd)
        simp [Waiting.takes, hbracket, hblank, hbrace, hargument]

/-- **A move keeps what comes of a text.** -/
theorem move_mirrored (h : a.Mirrors t position s u) (hfits : a.task.Fits)
    (hn : Nested a.closing callers s.opens) :
    (a.move position t[position]?).Mirrored t position a s.opens (s.outcome u) := by
  cases ha : a.task with
  | read => exact mirrored_read h ha hn
  | comment => exact mirrored_comment h ha
  | escape => exact mirrored_escape h ha
  | name letters => exact mirrored_name h ha
  | option p =>
    rw [ha] at hfits
    exact mirrored_option h ha hfits.1
  | argument p values start => exact mirrored_argument h ha

end Activation

end Lector.Latex
