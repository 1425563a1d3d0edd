import Lector.Proofs.Latex.Correspondence

/-!
# How far a conversion goes

The recursive descent stops on every text, after a number of steps that is linear in its length, and
gives what the conversion by tokens gives. Wherever it stands on the way, it is within the text, it
has come there without going back over anything but white space, and every activation of it but the
first has a bracket of its own behind the position.

## Main definitions

* `Descent.Sound`: what holds wherever a descent stands
* `Descent.Mirrors`: a descent and a state of the conversion stand at the same place

## Main results

* `Descent.Sound.step`: a step keeps a descent sound, and goes back over white space only
* `Descent.exists_stop`: every descent stops
* `Descent.eq_convert`: a descent gives what the conversion gives
* `toText_bounded`: the conversion ends on every text, with bounded work
-/

namespace Lector.Latex

namespace Descent

variable {t u : Text} {d d' : Descent} {s : State} {n : Nat} {result : Except Fault Text}

/-! ## Steps -/

/-- A bound for the steps that a descent has left. -/
def work (t : Text) (d : Descent) : Nat := d.current.task.work (t.drop d.position) d.position

/-- What holds wherever a descent stands. Its activations are fewer than those that were begun, and
these have brackets of their own behind the position, but for the outermost one. -/
structure Sound (t : Text) (d : Descent) : Prop where
  position_le : d.position ≤ t.length
  current : d.current.Stands t d.position
  callers : ∀ a ∈ d.callers, a.Formed
  outermost : ((d.current :: d.callers).map Activation.closing).getLast? = some none
  depth : d.callers.length < d.begun
  charged : d.begun ≤ 1 + bracketsOf (t.take d.position)

theorem sound_start (t : Text) : Sound t {} where
  position_le := Nat.zero_le _
  current := ⟨⟨by simp, trivial⟩, trivial⟩
  callers := by simp
  outermost := rfl
  depth := Nat.zero_lt_one
  charged := Nat.le_add_right _ _

/-- The activation at work is closed by the next character, and has a caller. -/
structure Leaves (t : Text) (d : Descent) (mark : Char) (a : Activation)
    (callers : List Activation) : Prop where
  task : d.current.task = .read
  closing : d.current.closing = some mark
  next : t[d.position]? = some mark
  callers_eq : d.callers = a :: callers

theorem Leaves.ahead {mark : Char} {a : Activation} {callers : List Activation}
    (h : d.Leaves t mark a callers) : t.drop d.position = mark :: t.drop (d.position + 1) := by
  obtain ⟨hlt, hc⟩ := List.getElem?_eq_some_iff.mp h.next
  rw [List.drop_eq_getElem_cons hlt, hc]

/-- **All that a step can do.** -/
theorem Sound.step_cases (h : d.Sound t) :
    (∃ n a, d.current.move d.position t[d.position]? = .go n a ∧ d.step t = .inl (d.goOn n a)) ∨
    (∃ mark, d.current.move d.position t[d.position]? = .call mark ∧
      d.step t = .inl (d.call mark)) ∨
    (∃ mark a callers, d.Leaves t mark a callers ∧ d.step t = .inl (d.leave a callers)) ∨
    ∃ result, d.current.move d.position t[d.position]? = .stop result ∧
      d.step t = .inr result := by
  have hworth := Activation.move_worth h.current h.position_le
  unfold Descent.step
  cases hmove : d.current.move d.position t[d.position]? with
  | go n a => exact .inl ⟨n, a, rfl, rfl⟩
  | call mark => exact .inr (.inl ⟨mark, rfl, rfl⟩)
  | leave =>
    rw [hmove] at hworth
    obtain ⟨htask, mark, hclosing, hnext⟩ := hworth
    cases hcallers : d.callers with
    | nil =>
      have hlast := h.outermost
      simp [hcallers, hclosing] at hlast
    | cons a callers =>
      exact .inr (.inr (.inl ⟨mark, a, callers, ⟨htask, hclosing, hnext, hcallers⟩, rfl⟩))
  | stop result => exact .inr (.inr (.inr ⟨result, rfl, rfl⟩))

theorem Sound.goOn (h : d.Sound t) {n : Nat} {a : Activation}
    (hclosing : a.closing = d.current.closing) (hset : Sets t d.position n) (ha : a.Stands t n) :
    (d.goOn n a).Sound t where
  position_le := hset.le
  current := ha
  callers := h.callers
  outermost := by
    show ((a :: d.callers).map Activation.closing).getLast? = some none
    rw [List.map_cons, hclosing]
    exact h.outermost
  depth := h.depth
  charged := Nat.le_trans h.charged (Nat.add_le_add_left hset.brackets 1)

/-- The bracket that is passed is charged with the new activation. -/
theorem Sound.call (h : d.Sound t) {mark c : Char} (hmark : isBlank mark = false)
    (hnext : t[d.position]? = some c) (hc : c = '\x7b' ∨ c = '[') : (d.call mark).Sound t where
  position_le := (List.getElem?_eq_some_iff.mp hnext).1
  current := by
    refine ⟨⟨?_, trivial⟩, trivial⟩
    rintro _ ⟨⟩
    exact hmark
  callers := List.forall_mem_cons.mpr ⟨h.current.toFormed, h.callers⟩
  outermost := by
    show ((_ :: d.current :: d.callers).map Activation.closing).getLast? = some none
    rw [List.map_cons, List.map_cons, List.getLast?_cons_cons]
    exact h.outermost
  depth := Nat.succ_lt_succ h.depth
  charged := by
    have hcharged := h.charged
    have hone : bracketsOf [c] = 1 := by rcases hc with rfl | rfl <;> rfl
    have htake : bracketsOf (t.take (d.position + 1)) = bracketsOf (t.take d.position) + 1 := by
      rw [List.take_add_one, hnext, ← hone]
      exact bracketsOf_append _ _
    show d.begun + 1 ≤ 1 + bracketsOf (t.take (d.position + 1))
    omega

theorem Sound.leave (h : d.Sound t) {mark : Char} {a : Activation} {callers : List Activation}
    (hleaves : d.Leaves t mark a callers) : (d.leave a callers).Sound t := by
  have hlt : d.position < t.length := (List.getElem?_eq_some_iff.mp hleaves.next).1
  obtain ⟨hformed, hdepth, hlast⟩ : (∀ b ∈ a :: callers, b.Formed) ∧
      (a :: callers).length < d.begun ∧
      ((d.current :: a :: callers).map Activation.closing).getLast? = some none :=
    hleaves.callers_eq ▸ ⟨h.callers, h.depth, h.outermost⟩
  obtain ⟨ha, hcallers⟩ := List.forall_mem_cons.mp hformed
  refine ⟨hlt, ha.resume _ _, hcallers, ?_, Nat.lt_of_succ_lt hdepth, ?_⟩
  · show ((a.resume _ _ :: callers).map Activation.closing).getLast? = some none
    rw [List.map_cons, List.map_cons, List.getLast?_cons_cons] at hlast
    rw [List.map_cons, Activation.closing_resume]
    exact hlast
  · exact Nat.le_trans h.charged (Nat.add_le_add_left (Sets.pass hlt).brackets 1)

/-- The mark that is passed makes up for what its caller has left to do. -/
theorem Sound.work_leave_lt (h : d.Sound t) {mark : Char} {a : Activation}
    {callers : List Activation} (hleaves : d.Leaves t mark a callers) :
    (d.leave a callers).work t < d.work t := by
  have ha : a.Formed := h.callers a (by simp [hleaves.callers_eq])
  refine Nat.lt_of_le_of_lt (ha.work_resume_le _ _ _) ?_
  have hmark : isBlank mark = false := h.current.closes mark hleaves.closing
  rw [work, hleaves.task, hleaves.ahead]
  simp only [Task.work, blanksOf_cons_of_not_blank hmark, List.length_cons]
  show 3 * (t.drop (d.position + 1)).length + 2 < _
  omega

/-- **A step keeps a descent sound**, takes off work and goes back over white space only. -/
theorem Sound.step (h : d.Sound t) (hd : d.step t = .inl d') :
    d'.Sound t ∧ d'.work t < d.work t ∧
      ∀ c ∈ (t.take d.position).drop d'.position, isBlank c = true := by
  have hworth := Activation.move_worth h.current h.position_le
  rcases h.step_cases with ⟨n, a, hmove, he⟩ | ⟨mark, hmove, he⟩ |
    ⟨mark, a, callers, hleaves, he⟩ | ⟨result, -, he⟩
  · cases he.symm.trans hd
    rw [hmove] at hworth
    obtain ⟨hclosing, hset, hstands, hless⟩ := hworth
    exact ⟨h.goOn hclosing hset hstands, hless, hset.blank⟩
  · cases he.symm.trans hd
    rw [hmove] at hworth
    obtain ⟨hmark, c, hnext, hc, hless⟩ := hworth
    have hlt : d.position < t.length := (List.getElem?_eq_some_iff.mp hnext).1
    exact ⟨h.call hmark hnext hc, Nat.lt_of_le_of_lt (Activation.work_read_le _ _) hless,
      (Sets.pass hlt).blank⟩
  · cases he.symm.trans hd
    have hlt : d.position < t.length := (List.getElem?_eq_some_iff.mp hleaves.next).1
    exact ⟨h.leave hleaves, h.work_leave_lt hleaves, (Sets.pass hlt).blank⟩
  · cases he.symm.trans hd

/-- A descent that stops with a text has passed all of its input, and a fault lies within it. -/
theorem Sound.stop (h : d.Sound t) (hd : d.step t = .inr result) :
    (∀ said, result = .ok said → d.position = t.length) ∧
      ∀ f, result = .error f → f.position ≤ t.length := by
  have hworth := Activation.move_worth h.current h.position_le
  rcases h.step_cases with ⟨n, a, -, he⟩ | ⟨mark, -, he⟩ | ⟨mark, a, callers, -, he⟩ |
    ⟨result', hmove, he⟩
  · cases he.symm.trans hd
  · cases he.symm.trans hd
  · cases he.symm.trans hd
  · cases he.symm.trans hd
    rw [hmove] at hworth
    exact hworth

/-! ## Runs -/

theorem after_succ : after t (n + 1) = some d' ↔ ∃ d, after t n = some d ∧ d.step t = .inl d' := by
  simp [after, Option.bind_eq_some_iff, Sum.getLeft?_eq_some_iff]

/-- **Wherever a descent comes to stand**, it is sound, and its steps so far and those that are left
are no more than three for each character. -/
theorem sound_after (h : after t n = some d) : d.Sound t ∧ d.work t + n ≤ 3 * t.length := by
  induction n generalizing d with
  | zero =>
    cases h
    exact ⟨sound_start t, Activation.work_read_le t 0⟩
  | succ n ih =>
    obtain ⟨d₀, hd₀, hstep⟩ := after_succ.mp h
    obtain ⟨hsound, hwork⟩ := ih hd₀
    obtain ⟨hsound', hless, -⟩ := hsound.step hstep
    exact ⟨hsound', by omega⟩

/-- A descent that stands nowhere after some steps has stopped before. -/
theorem exists_stop_of_after (h : after t n = none) :
    ∃ m < n, ∃ d result, after t m = some d ∧ d.step t = .inr result := by
  induction n with
  | zero => cases h
  | succ n ih =>
    cases hn : after t n with
    | none =>
      obtain ⟨m, hm, hstop⟩ := ih hn
      exact ⟨m, Nat.lt_succ_of_lt hm, hstop⟩
    | some d =>
      cases hstep : d.step t with
      | inl d' =>
        rw [after_succ.mpr ⟨d, hn, hstep⟩] at h
        cases h
      | inr result => exact ⟨n, Nat.lt_succ_self n, d, result, hn, hstep⟩

/-- **Every descent stops**, after three steps for each character at most. -/
theorem exists_stop (t : Text) :
    ∃ n ≤ 3 * t.length, ∃ d result, after t n = some d ∧ d.step t = .inr result := by
  have hnone : after t (3 * t.length + 1) = none := by
    cases h : after t (3 * t.length + 1) with
    | none => rfl
    | some d =>
      have hwork := (sound_after h).2
      omega
  obtain ⟨n, hn, hstop⟩ := exists_stop_of_after hnone
  exact ⟨n, Nat.le_of_lt_succ hn, hstop⟩

/-! ## The conversion along the way -/

/-- A descent and a state of the conversion say the same within the same enclosures, and stand at
the same place. -/
structure Mirrors (t : Text) (s : State) (u : Text) (d : Descent) : Prop where
  current : d.current.Mirrors t d.position s u
  nested : Nested d.current.closing d.callers s.opens

/-- The activation at work gives way to one with the same closing mark. -/
theorem Mirrors.of_follows (h : d.Mirrors t s u) {b : Activation} {position : Nat}
    (hb : b.Follows t position s.opens (s.outcome u)) (hclosing : b.closing = d.current.closing) :
    ∃ s' u', (d.goOn position b).Mirrors t s' u' ∧ s'.outcome u' = s.outcome u := by
  obtain ⟨s', u', hmirrors, hopens, houtcome⟩ := hb
  refine ⟨s', u', ⟨hmirrors, ?_⟩, houtcome⟩
  show Nested b.closing d.callers s'.opens
  rw [hclosing, hopens]
  exact h.nested

/-- An activation that is over hands what it has said to the one that called it, and an enclosure is
closed. -/
theorem Mirrors.leave (h : d.Mirrors t s u) {mark : Char} {a : Activation}
    {callers : List Activation} (hleaves : d.Leaves t mark a callers) (ha : a.Formed) :
    ∃ s' u', (d.leave a callers).Mirrors t s' u' ∧ s'.outcome u' = s.outcome u := by
  obtain ⟨hw, hposition, rfl⟩ : Task.read.Mirrors t d.position s u :=
    hleaves.task ▸ h.current.task
  have hplace : (s.advance 1).position = d.position + 1 := congrArg (· + 1) hposition
  obtain ⟨a', o, callers', opens, hcallers, hopens, hnested, hencloses⟩ :=
    Nested.of_some (hleaves.closing ▸ h.nested)
  obtain ⟨rfl, rfl⟩ := List.cons.inj (hleaves.callers_eq.symm.trans hcallers)
  have hback {s' : State} (hm : (a.resume (d.position + 1) d.current.said).Mirrors t
      (d.position + 1) s' (t.drop (d.position + 1))) (ho : s'.opens = opens) :
      (d.leave a callers).Mirrors t s' (t.drop (d.position + 1)) := by
    refine ⟨hm, ?_⟩
    show Nested (a.resume _ _).closing callers s'.opens
    rw [Activation.closing_resume, ho]
    exact hnested
  rw [hleaves.ahead]
  -- The mark is one token for the conversion, and what it does is told by the enclosure.
  cases hencloses with
  | group hread =>
    let s' : State := { s.advance 1 with done := s.done ++ a.said, opens := opens }
    have hstep : s.step .closing = .ok s' := by
      rw [State.step_of_free hw]
      simp [State.stepFree, State.close, hopens, State.advance, Token.source, s']
    refine ⟨s', _, hback ?_ rfl, (State.outcome_of_step (k := .closing) trivial hstep).symm⟩
    have hresume : a.resume (d.position + 1) d.current.said = a.say d.current.said.reverse := by
      simp [Activation.resume, hread]
    rw [hresume]
    refine Activation.mirrors_read hw ?_ rfl hplace
    simp [s', Activation.say, h.current.said]
  | @option p hoption =>
    let s' : State := { s.advance 1 with
      done := a.said, opens := opens, waiting := some { phrase := p, fresh := false } }
    have hstep : s.step (.char ']') = .ok s' := by
      rw [State.step_of_free hw]
      simp [State.stepFree, State.hear, hopens, State.advance, Token.source, s']
    refine ⟨s', _, hback ?_ rfl,
      (State.outcome_of_step (Token.before_char (by decide) _) hstep).symm⟩
    have hfits : (Task.option p).Fits := hoption ▸ ha.fits
    have hresume : a.resume (d.position + 1) d.current.said =
        { a with task := .argument p [] (d.position + 1) } := by
      simp [Activation.resume, hoption, Activation.ask, hfits.1]
    rw [hresume]
    exact ⟨rfl, hplace, rfl, _, rfl, rfl, rfl, by simp, by simp, Nat.zero_add _, rfl⟩
  | @argument w start hargument =>
    let s₀ : State := { s.advance 1 with done := a.said, opens := opens }
    have hstep : s.step .closing = .ok (s₀.supply w s.done.reverse) := by
      rw [State.step_of_free hw]
      simp [State.stepFree, State.close, hopens, State.advance, Token.source, s₀]
    refine ⟨s₀.supply w s.done.reverse, _, hback ?_ (State.opens_supply _ _ _),
      (State.outcome_of_step (k := .closing) trivial hstep).symm⟩
    have hresume : a.resume (d.position + 1) d.current.said =
        a.ask w.phrase (s.done.reverse :: w.arguments) (d.position + 1) := by
      simp [Activation.resume, hargument, h.current.said]
    rw [hresume]
    exact Activation.mirrors_ask (s := s₀) rfl hplace w _

/-- **A step keeps what comes of the text.** -/
theorem Mirrors.step (h : d.Mirrors t s u) (hsound : d.Sound t) (hd : d.step t = .inl d') :
    ∃ s' u', d'.Mirrors t s' u' ∧ s'.outcome u' = s.outcome u := by
  have hworth := Activation.move_worth hsound.current hsound.position_le
  have hmirrored := Activation.move_mirrored h.current hsound.current.fits h.nested
  rcases hsound.step_cases with ⟨n, a, hmove, he⟩ | ⟨mark, hmove, he⟩ |
    ⟨mark, a, callers, hleaves, he⟩ | ⟨result, -, he⟩
  · cases he.symm.trans hd
    rw [hmove] at hworth hmirrored
    exact h.of_follows hmirrored hworth.1
  · cases he.symm.trans hd
    rw [hmove] at hmirrored
    obtain ⟨o, hencloses, houtcome⟩ := hmirrored
    let s' : State := { opens := o :: s.opens, position := d.position + 1 }
    have hmirrors : (d.call mark).Mirrors t s' (t.drop (d.position + 1)) :=
      ⟨Activation.mirrors_read rfl rfl rfl rfl, .inner h.nested hencloses⟩
    exact ⟨s', _, hmirrors, houtcome⟩
  · cases he.symm.trans hd
    exact h.leave hleaves (hsound.callers a (by simp [hleaves.callers_eq]))
  · cases he.symm.trans hd

/-- A descent stops with what comes of the text. -/
theorem Mirrors.stop (h : d.Mirrors t s u) (hsound : d.Sound t) (hd : d.step t = .inr result) :
    result = s.outcome u := by
  have hmirrored := Activation.move_mirrored h.current hsound.current.fits h.nested
  rcases hsound.step_cases with ⟨n, a, -, he⟩ | ⟨mark, -, he⟩ | ⟨mark, a, callers, -, he⟩ |
    ⟨result', hmove, he⟩
  · cases he.symm.trans hd
  · cases he.symm.trans hd
  · cases he.symm.trans hd
  · cases he.symm.trans hd
    rw [hmove] at hmirrored
    exact hmirrored

/-- **Wherever a descent stands, a conversion comes to the same end.** -/
theorem exists_mirror (h : after t n = some d) :
    ∃ s u, d.Mirrors t s u ∧ s.outcome u = convert t := by
  induction n generalizing d with
  | zero =>
    cases h
    exact ⟨{}, t, ⟨Activation.mirrors_read rfl rfl rfl rfl, .outermost⟩, rfl⟩
  | succ n ih =>
    obtain ⟨d₀, hd₀, hstep⟩ := after_succ.mp h
    obtain ⟨s, u, hmirrors, houtcome⟩ := ih hd₀
    obtain ⟨s', u', hmirrors', houtcome'⟩ := hmirrors.step (sound_after hd₀).1 hstep
    exact ⟨s', u', hmirrors', houtcome'.trans houtcome⟩

/-- A descent gives what the conversion by tokens gives. -/
theorem eq_convert (h : after t n = some d) (hd : d.step t = .inr result) : result = convert t := by
  obtain ⟨s, u, hmirrors, houtcome⟩ := exists_mirror h
  exact (hmirrors.stop (sound_after h).1 hd).trans houtcome

end Descent

/-- **The conversion ends on every text, with bounded work.** As a recursive descent it stops after
three steps for each character at most, and gives what the conversion gives: if it gives a text, it
has gone through its whole input, and if not, the place of the fault lies within the input. All the
way the position lies within the input and is set back over white space only, and activations are
nested no deeper than activations were begun, which, besides the first, is one for each opening
brace and bracket at most. What is said of a fault quotes a position within the input. -/
theorem toText_bounded (t : Text) :
    (∃ n ≤ 3 * t.length, ∃ d result, Descent.after t n = some d ∧ d.step t = .inr result ∧
      toText t = result.mapError (fun f => .transform directiveName f.message) ∧
      (∀ said, result = .ok said → d.position = t.length) ∧
      ∀ f, result = .error f → f.position ≤ t.length) ∧
    (∀ n d, Descent.after t n = some d →
      d.position ≤ t.length ∧ d.callers.length < d.begun ∧
      d.begun ≤ 1 + (t.count '\x7b' + t.count '[') ∧
      ∀ d', d.step t = .inl d' → ∀ c ∈ (t.take d.position).drop d'.position, isBlank c = true) ∧
    ∀ e, toText t = .error e → ∃ fault n, n ≤ t.length ∧ e = .transform directiveName
      (fault ++ " (at character ".toList ++ Text.ofNat n ++ [')']) := by
  obtain ⟨n, hn, d, result, hafter, hstop⟩ := Descent.exists_stop t
  obtain ⟨hend, hfault⟩ := (Descent.sound_after hafter).1.stop hstop
  have hresult : result = convert t := Descent.eq_convert hafter hstop
  have htext : toText t = result.mapError fun f => .transform directiveName f.message := by
    rw [hresult]
    rfl
  refine ⟨⟨n, hn, d, result, hafter, hstop, htext, hend, hfault⟩, ?_, ?_⟩
  · intro n d hafter
    have hsound := (Descent.sound_after hafter).1
    have hbrackets := bracketsOf_le_of_sublist (List.take_sublist d.position t)
    exact ⟨hsound.position_le, hsound.depth,
      Nat.le_trans hsound.charged (Nat.add_le_add_left hbrackets 1),
      fun d' hd' => (hsound.step hd').2.2⟩
  · intro e he
    cases hr : result with
    | ok said =>
      rw [htext, hr] at he
      cases he
    | error f =>
      rw [htext, hr] at he
      cases he
      exact ⟨_, f.position, hfault f hr, rfl⟩

/-- The white space behind a macro is gone over for each argument that does not come, and once more
when it is read. -/
example : (List.range 14).map (fun n => (Descent.after "\\SI  -".toList n).map Descent.position) =
    [0, 1, 2, 3, 3, 3, 4, 5, 3, 4, 5, 3, 4, 5].map some := by decide

end Lector.Latex
