import Mathlib
import Lector.Proofs.Latex.Balance

/-!
# Groups compose

What stands beneath a conversion, be it a text that has been said or a group that is still open, is
not touched by it: the conversion above a ground is the conversion by itself, set above that ground.
Hence a text that is converted by itself is read within a group as it is read alone, if its last
token ends in front of the closing brace, and what follows the group is read as if nothing stood in
front of it.

## Main definitions

* `Ground`, `State.above`: what lies beneath a conversion, and a state set above it
* `Ended`: a text that ends neither in a comment nor with a lone backslash

## Main results

* `stepWaiting_cases`: what a token does where a macro waits
* `step_above`, `run_above`: a conversion leaves its ground alone
* `readAs_group`: a text that can be converted is read in a group as it is converted
* `toText_group_append`: a group and what follows it are converted one after the other
-/

namespace Lector.Latex

/-! ## Steps of a conversion -/

/-- What goes through has gone through one after the other. -/
theorem exists_of_bind {α β : Type} {x : Except Fault α} {f : α → Except Fault β} {b : β}
    (h : x.bind f = .ok b) : ∃ a, x = .ok a ∧ f a = .ok b := by
  cases x with
  | error e => cases h
  | ok a => exact ⟨a, rfl, h⟩

/-- A text that can be read starts with a token that can be converted. -/
theorem State.exists_step_of_read {s s' : State} {k : Token} {rest : Text} (hk : k.Before rest)
    (h : s.read (k.source ++ rest) = .ok s') :
    ∃ s₁, s.step k = .ok s₁ ∧ s₁.read rest = .ok s' :=
  exists_of_bind (s.read_source_append hk ▸ h)

/-- **What a token does where a macro waits.** It opens an argument or an option, stays behind the
macro as a blank, or is an argument by itself. Otherwise the macro is said first. -/
theorem State.stepWaiting_cases {s s' : State} {w : Waiting} {k : Token}
    (h : s.stepWaiting w k = .ok s') :
    (k = .opening ∧ s' = s.enclose (.argument s.done w)) ∨
      (k = .char '[' ∧ w.fresh = true ∧ s' = s.enclose (.option s.done w.phrase)) ∨
      (∃ c, k = .char c ∧ isBlank c = true ∧
        s' = s.wait { w with fresh := false, blanks := c :: w.blanks }) ∨
      (∃ c, k = .char c ∧ isArgument c = true ∧ s' = s.supply w [c]) ∨
      s.settle.stepFree k = .ok s' := by
  cases k with
  | opening => exact Or.inl ⟨rfl, (Except.ok.inj h).symm⟩
  | char c =>
    rw [stepWaiting] at h
    split at h
    next hoption =>
      obtain ⟨hfresh, rfl⟩ : w.fresh = true ∧ c = '[' := by simpa using hoption
      exact Or.inr (Or.inl ⟨rfl, hfresh, (Except.ok.inj h).symm⟩)
    split at h
    next hblank => exact Or.inr (Or.inr (Or.inl ⟨c, rfl, hblank, (Except.ok.inj h).symm⟩))
    split at h
    next hargument =>
      exact Or.inr (Or.inr (Or.inr (Or.inl ⟨c, rfl, hargument, (Except.ok.inj h).symm⟩)))
    next => exact Or.inr (Or.inr (Or.inr (Or.inr h)))
  | _ => exact Or.inr (Or.inr (Or.inr (Or.inr h)))

/-! ## Conversions above a ground -/

/-- What lies beneath a conversion. -/
inductive Ground
  /-- A text that has been said, from its end on. -/
  | behind (said : Text)
  /-- A group that is open, with the text in front of it and what encloses it. -/
  | inside (before : Text) (opens : List Open)

namespace Open

/-- The text in front of an enclosure. -/
def before : Open → Text
  | group t | option t _ | argument t _ => t

/-- An enclosure with another text in front of it. -/
def setBefore (t : Text) : Open → Open
  | group _ => group t
  | option _ p => option t p
  | argument _ w => argument t w

end Open

/-- The innermost text and the enclosures around it, set above a ground. -/
def Ground.bear (g : Ground) (done : Text) : List Open → Text × List Open
  | [] =>
    match g with
    | behind said => (done ++ said, [])
    | inside before opens => (done, .group before :: opens)
  | o :: opens =>
    (done, o.setBefore (g.bear o.before opens).1 :: (g.bear o.before opens).2)

/-- The ground reaches up to the last of the innermost text at most. -/
theorem Ground.bear_append (g : Ground) (t done : Text) (opens : List Open) :
    g.bear (t ++ done) opens = (t ++ (g.bear done opens).1, (g.bear done opens).2) := by
  cases opens with
  | nil => cases g <;> simp [bear]
  | cons o opens => rfl

/-- A fault that is found a number of characters later. -/
def Fault.later (n : Nat) (f : Fault) : Fault := { f with position := n + f.position }

namespace State

/-- A state set above a ground, a number of characters later. -/
def above (g : Ground) (n : Nat) (s : State) : State where
  done := (g.bear s.done s.opens).1
  opens := (g.bear s.done s.opens).2
  waiting := s.waiting
  position := n + s.position

/-- The outcome of a conversion set above a ground. -/
def outcomeAbove (g : Ground) (n : Nat) (r : Except Fault State) : Except Fault State :=
  (r.map (above g n)).mapError (Fault.later n)

theorem exists_option_of_inOption {s : State} (h : s.inOption = true) :
    ∃ before p opens, s.opens = .option before p :: opens := by
  unfold inOption at h
  split at h
  next before p opens hopens => exact ⟨before, p, opens, hopens⟩
  next => cases h

section Above

variable (g : Ground) (n : Nat) (s : State)

theorem above_say (t : Text) : (s.say t).above g n = (s.above g n).say t := by
  simp only [above, say, g.bear_append]

theorem above_settle : s.settle.above g n = (s.above g n).settle := by
  obtain ⟨done, opens, waiting, position⟩ := s
  cases waiting with
  | none => rfl
  | some w => simp only [settle, above, g.bear_append]

theorem above_supply (w : Waiting) (t : Text) :
    (s.supply w t).above g n = (s.above g n).supply w t := by
  unfold supply above
  dsimp only
  split
  · rfl
  · simp only [g.bear_append]

theorem above_meet (name : Text) : (s.meet name).above g n = (s.above g n).meet name := by
  unfold meet
  cases reading? name with
  | none => rfl
  | some r =>
    cases r with
    | text t => exact above_say g n s t
    | phrase p => rfl

theorem above_enclose (o : Open) (h : o.before = s.done) :
    (s.enclose o).above g n = (s.above g n).enclose (o.setBefore (s.above g n).done) := by
  simp [above, enclose, Ground.bear, h]

theorem inOption_above : (s.above g n).inOption = s.inOption := by
  obtain ⟨done, opens, waiting, position⟩ := s
  cases opens with
  | nil => cases g <;> rfl
  | cons o opens => cases o <;> rfl

theorem above_hear (c : Char) : (s.hear c).above g n = (s.above g n).hear c := by
  by_cases hclosed : s.inOption = true → c ≠ ']'
  · rw [hear_eq_say hclosed, hear_eq_say (by rwa [inOption_above]), above_say]
  · obtain ⟨hoption, rfl⟩ : s.inOption = true ∧ c = ']' := by simpa using hclosed
    obtain ⟨before, p, opens', hopens⟩ := exists_option_of_inOption hoption
    obtain ⟨done, opens, waiting, position⟩ := s
    obtain rfl : opens = _ := hopens
    rfl

/-- **A closing brace closes the same above a ground**, unless it is the ground that it closes. -/
theorem close_above (h : s.opens = [] → ∃ said, g = .behind said) :
    (s.above g n).close = outcomeAbove g n s.close := by
  obtain ⟨done, opens, waiting, position⟩ := s
  cases opens with
  | nil =>
    obtain ⟨said, rfl⟩ := h rfl
    rfl
  | cons o opens =>
    cases o with
    | group before =>
      change Except.ok _ = Except.ok _
      simp only [above, g.bear_append]
      rfl
    | option before p => rfl
    | argument before w =>
      change Except.ok _ = Except.ok _
      rw [above_supply]
      rfl

theorem stepFree_above (k : Token) (h : k = .closing → s.opens = [] → ∃ said, g = .behind said) :
    (s.above g n).stepFree k = outcomeAbove g n (s.stepFree k) := by
  cases k with
  | char c => exact congrArg Except.ok (above_hear g n s c).symm
  | tie => exact congrArg Except.ok (above_say g n s [' ']).symm
  | math => rfl
  | comment t ended => rfl
  | lone => rfl
  | opening => exact congrArg Except.ok (above_enclose g n s (.group s.done) rfl).symm
  | closing => exact close_above g n s (h rfl)
  | word name starred => exact congrArg Except.ok (above_meet g n s name).symm
  | symbol c => exact congrArg Except.ok (above_meet g n s [c]).symm

theorem opens_settle : s.settle.opens = s.opens := by
  unfold settle
  split <;> rfl

theorem settle_stepFree_above (k : Token)
    (h : k = .closing → s.opens = [] → ∃ said, g = .behind said) :
    (s.above g n).settle.stepFree k = outcomeAbove g n (s.settle.stepFree k) := by
  rw [← above_settle]
  exact stepFree_above g n s.settle k (by rwa [opens_settle])

theorem stepWaiting_above (w : Waiting) (k : Token)
    (h : k = .closing → s.opens = [] → ∃ said, g = .behind said) :
    (s.above g n).stepWaiting w k = outcomeAbove g n (s.stepWaiting w k) := by
  have hsettled := settle_stepFree_above g n s k h
  cases k with
  | char c =>
    unfold stepWaiting
    dsimp only
    split
    · exact congrArg Except.ok (above_enclose g n s (.option s.done w.phrase) rfl).symm
    split
    · rfl
    split
    · exact congrArg Except.ok (above_supply g n s w [c]).symm
    · exact hsettled
  | opening => exact congrArg Except.ok (above_enclose g n s (.argument s.done w) rfl).symm
  | _ => exact hsettled

theorem above_advance (m : Nat) : (s.advance m).above g n = (s.above g n).advance m := by
  simp [above, advance, Nat.add_assoc]

/-- **A token is converted above a ground as it is by itself**, unless it closes the ground. -/
theorem step_above (k : Token) (h : k = .closing → s.opens = [] → ∃ said, g = .behind said) :
    (s.above g n).step k = outcomeAbove g n (s.step k) := by
  cases hw : s.waiting with
  | none =>
    rw [step_of_free hw, step_of_free (s := s.above g n) hw, ← above_advance]
    exact stepFree_above g n _ k h
  | some w =>
    rw [step_of_waiting hw, step_of_waiting (s := s.above g n) hw, ← above_advance]
    exact stepWaiting_above g n _ w k h

end Above

/-- Where nothing is open, a closing brace is at fault. -/
theorem step_closing_ne_ok {s : State} (h : s.opens = []) (s' : State) :
    s.step .closing ≠ .ok s' := by
  have hmarks : (s.advance Token.closing.source.length).settle.marks = [] := by
    rw [marks_settle, marks_advance, marks, h]
    rfl
  rw [step_settled s (by decide) (by intro c hc; cases hc), stepFree, close_eq_error]
  · intro hs
    cases hs
  · simp [hmarks]

/-- **A conversion that goes through is the same above every ground.** -/
theorem run_above {s s' : State} {ts : List Token} (h : run s ts = .ok s') (g : Ground) (n : Nat) :
    run (s.above g n) ts = .ok (s'.above g n) := by
  induction ts generalizing s with
  | nil =>
    cases h
    rfl
  | cons k ts ih =>
    obtain ⟨s₁, hs, hrest⟩ := exists_of_bind (run_cons s k ts ▸ h)
    -- the closing brace of the ground would have been at fault
    have hspares : k = .closing → s.opens = [] → ∃ said, g = .behind said := by
      rintro rfl hopens
      exact absurd hs (step_closing_ne_ok hopens s₁)
    rw [run_cons, step_above g n s k hspares, hs]
    exact ih hrest

/-- **Behind a text that has been said, a conversion also fails as it does by itself.** -/
theorem run_above_behind (said : Text) (n : Nat) (s : State) (ts : List Token) :
    run (s.above (.behind said) n) ts = outcomeAbove (.behind said) n (run s ts) := by
  induction ts generalizing s with
  | nil => rfl
  | cons k ts ih =>
    rw [run_cons, run_cons, step_above _ _ _ _ fun _ _ => ⟨said, rfl⟩]
    cases s.step k with
    | error f => rfl
    | ok s₁ => exact ih s₁

/-- What has been said in front of a conversion stands in front of its text. -/
theorem finish_above_behind (said : Text) (n : Nat) (s : State) :
    (s.above (.behind said) n).finish =
      (s.finish.map (said.reverse ++ ·)).mapError (Fault.later n) := by
  obtain ⟨done, opens, waiting, position⟩ := s
  cases opens with
  | nil =>
    cases waiting with
    | none => simp [finish, above, Ground.bear, settle, Except.map, Except.mapError]
    | some w => simp [finish, above, Ground.bear, settle, Except.map, Except.mapError]
  | cons o opens => cases o <;> rfl

end State

/-- **A text is converted behind another one as it is converted alone.** -/
theorem read_above_finish (said : Text) (n : Nat) (t : Text) :
    ((({} : State).above (.behind said) n).read t).bind State.finish =
      ((convert t).map (said.reverse ++ ·)).mapError (Fault.later n) := by
  rw [State.read, State.run_above_behind, convert]
  cases run {} (tokens t) with
  | error f => rfl
  | ok s => exact State.finish_above_behind said n s

/-! ## The number of characters read -/

namespace State

variable {s s' : State}

@[simp] theorem position_settle (s : State) : s.settle.position = s.position := by
  unfold settle
  split <;> rfl

@[simp] theorem position_supply (s : State) (w : Waiting) (t : Text) :
    (s.supply w t).position = s.position := by
  unfold supply
  dsimp only
  split <;> rfl

@[simp] theorem position_meet (s : State) (name : Text) :
    (s.meet name).position = s.position := by
  unfold meet
  split <;> rfl

@[simp] theorem position_hear (s : State) (c : Char) : (s.hear c).position = s.position := by
  unfold hear
  split <;> rfl

theorem position_of_close (h : s.close = .ok s') : s'.position = s.position := by
  unfold close at h
  split at h
  · cases h
    rfl
  · cases h
    exact position_supply _ _ _
  · cases h

theorem position_of_stepFree {k : Token} (h : s.stepFree k = .ok s') :
    s'.position = s.position := by
  cases k with
  | closing => exact position_of_close h
  | char c =>
    cases h
    exact position_hear s c
  | word name starred =>
    cases h
    exact position_meet s name
  | symbol c =>
    cases h
    exact position_meet s [c]
  | _ =>
    cases h
    rfl

theorem position_of_stepWaiting {w : Waiting} {k : Token} (h : s.stepWaiting w k = .ok s') :
    s'.position = s.position := by
  rcases stepWaiting_cases h with ⟨-, rfl⟩ | ⟨-, -, rfl⟩ | ⟨c, -, -, rfl⟩ | ⟨c, -, -, rfl⟩ | h
  · rfl
  · rfl
  · rfl
  · exact position_supply s w [c]
  · exact (position_of_stepFree h).trans (position_settle s)

/-- A token that is converted counts with all its characters. -/
theorem position_of_step {k : Token} (h : s.step k = .ok s') :
    s'.position = s.position + k.source.length := by
  cases hw : s.waiting with
  | none => exact position_of_stepFree (step_of_free hw k ▸ h)
  | some w => exact position_of_stepWaiting (step_of_waiting hw k ▸ h)

/-- A text that is converted counts with all its characters. -/
theorem position_of_read {t : Text} (h : s.read t = .ok s') :
    s'.position = s.position + t.length := by
  induction t using Token.induction generalizing s with
  | nil =>
    cases (read_nil s).symm.trans h
    rfl
  | token k rest hk ih =>
    obtain ⟨s₁, hs, hrest⟩ := exists_step_of_read hk h
    rw [ih hrest, position_of_step hs, List.length_append, Nat.add_assoc]

end State

/-! ## Texts whose last token ends -/

/-- A text ends neither in a comment nor with a backslash that escapes nothing. -/
def Ended (t : Text) : Prop :=
  ∀ p ∈ Scan.scan {} t, p.place ≠ .comment ∧ p.place ≠ .escaped

instance (t : Text) : Decidable (Ended t) :=
  inferInstanceAs (Decidable (∀ p ∈ Scan.scan {} t, p.place ≠ .comment ∧ p.place ≠ .escaped))

/-- A token that ends is read in front of a closing brace as it is at the end. -/
theorem Token.Before.closing {k : Token} {t : Text} (h : k.Before t)
    (hend : t = [] → k ≠ .lone ∧ ∀ line, k ≠ .comment line false) (rest : Text) :
    k.Before (t ++ '\x7d' :: rest) := by
  cases k with
  | comment line ended =>
    obtain ⟨hline, rfl | rfl⟩ := h
    · exact ⟨hline, Or.inl rfl⟩
    · cases ended with
      | true => exact ⟨hline, Or.inl rfl⟩
      | false => exact absurd rfl ((hend rfl).2 line)
  | word name starred =>
    obtain ⟨hne, hletters, hnext⟩ := h
    refine ⟨hne, hletters, hnext.imp_right fun hnext c hc => ?_⟩
    cases t with
    | nil =>
      obtain rfl : '\x7d' = c := by simpa using hc
      decide
    | cons d t => exact hnext c hc
  | lone => exact absurd rfl (hend h).1
  | _ => exact h

/-- Where a scan ends neither in a comment nor behind a backslash, its last token has ended. -/
theorem last_ended {p p' : Scan} {k : Token} (hk : k.Before [])
    (hp : p.place.Before k.source) (h : p.scan k.source = some p')
    (hend : p'.place ≠ .comment ∧ p'.place ≠ .escaped) :
    k ≠ .lone ∧ ∀ line, k ≠ .comment line false := by
  constructor
  · rintro rfl
    rw [Token.source, Scan.scan_singleton, Scan.step_eq_meet hp] at h
    cases h
    exact hend.2 rfl
  · rintro line rfl
    rw [← List.append_nil (Token.comment line false).source] at hp
    rw [Scan.scan_comment hk.1 hp] at h
    cases h
    exact hend.1 rfl

/-- **The tokens of a text that ends are the same in front of a closing brace.** -/
theorem tokens_append_closing {s s' : State} {p : Scan} {t : Text} (h : Agrees t s p)
    (hread : s.read t = .ok s') (hend : ∀ p' ∈ p.scan t, p'.place ≠ .comment ∧ p'.place ≠ .escaped)
    (rest : Text) : tokens (t ++ '\x7d' :: rest) = tokens t ++ tokens ('\x7d' :: rest) := by
  induction t using Token.induction generalizing s p with
  | nil => rw [tokens_nil, List.nil_append, List.nil_append]
  | token k t hk ih =>
    have hstep := step_together hk h
    obtain ⟨s₁, hs, hrest⟩ := State.exists_step_of_read hk hread
    cases hp : p.scan k.source with
    | none => simp [hs, hp, Together] at hstep
    | some p₁ =>
      rw [hs, hp] at hstep
      rw [Scan.scan_append, hp] at hend
      have hk' : k.Before (t ++ '\x7d' :: rest) := by
        refine hk.closing (fun ht => ?_) rest
        subst ht
        have hplace := (h.ready (by cases k <;> simp [Token.source])).1
        exact last_ended hk (by simpa using hplace) hp (hend p₁ (by simp))
      rw [List.append_assoc, tokens_source_append hk', tokens_source_append hk,
        ih hstep hrest hend]
      rfl

/-! ## Groups -/

/-- A conversion that ends well has nothing open. -/
theorem State.of_finish {s : State} {t : Text} (h : s.finish = .ok t) :
    s.opens = [] ∧ t = s.settle.done.reverse := by
  unfold finish at h
  split at h
  next hopens =>
    cases h
    exact ⟨hopens, rfl⟩
  next => cases h
  next => cases h

/-- The closing brace of a group ends what waits in it. -/
theorem State.step_closing_inside {s : State} (h : s.opens = []) (before : Text)
    (opens : List Open) (n : Nat) :
    (s.above (.inside before opens) n).step .closing =
      .ok ⟨s.settle.done ++ before, opens, none, n + s.position + 1⟩ := by
  obtain ⟨done, _, waiting, position⟩ := s
  obtain rfl : _ = [] := h
  cases waiting <;> rfl

variable {t u : Text}

theorem convert_of_toText (h : toText t = .ok u) : convert t = .ok u := by
  unfold toText at h
  cases hc : convert t with
  | ok v => simpa [hc, Except.mapError] using h
  | error f => simp [hc, Except.mapError] at h

theorem exists_of_convert (h : convert t = .ok u) :
    ∃ s, State.read {} t = .ok s ∧ s.opens = [] ∧ u = s.settle.done.reverse := by
  obtain ⟨s, hread, hfinish⟩ := exists_of_bind (x := State.read {} t) h
  exact ⟨s, hread, State.of_finish hfinish⟩

/-- **A text that can be converted and that ends is read in a group as it is converted.** No macro
that waits at its end gets an argument from what follows the group. -/
theorem readAs_group (h : convert t = .ok u) (hend : Ended t) : ReadAs true (braced t) u := by
  obtain ⟨s₀, hread, hopens, rfl⟩ := exists_of_convert h
  intro s rest hw _
  have hposition : s₀.position = t.length := by simpa using State.position_of_read hread
  have htokens := tokens_append_closing (p := {}) ⟨rfl, fun _ => ⟨trivial, Iff.rfl⟩⟩ hread hend rest
  have hopening : s.step .opening =
      .ok (({} : State).above (.inside s.done s.opens) (s.position + 1)) := State.step_of_free hw _
  have hinside : (({} : State).above (.inside s.done s.opens) (s.position + 1)).read
      (t ++ '\x7d' :: rest) =
        (s₀.above (.inside s.done s.opens) (s.position + 1)).read ('\x7d' :: rest) := by
    rw [State.read, htokens, run_append, State.run_above hread]
    rfl
  rw [braced_append, s.read_source_append (Token.before_opening _), hopening]
  have hclosing := State.read_source_append (s₀.above (.inside s.done s.opens) (s.position + 1))
    (Token.before_closing rest)
  refine hinside.trans (hclosing.trans ?_)
  rw [State.step_closing_inside hopens]
  have hsaid :
      (⟨s₀.settle.done ++ s.done, s.opens, none, s.position + 1 + s₀.position + 1⟩ : State) =
        (s.advance (braced t).length).say s₀.settle.done.reverse := by
    simp [State.advance, State.say, hw, hposition, length_braced, Nat.add_assoc]
  rw [hsaid]
  rfl

/-- **A group is converted in front of what follows it**, and what follows it is converted as it is
by itself. -/
theorem convert_group_append (h : convert t = .ok u) (hend : Ended t) (rest : Text) :
    convert (braced t ++ rest) =
      ((convert rest).map (u ++ ·)).mapError (Fault.later (braced t).length) := by
  have hread := readAs_group h hend {} rest rfl fun ho => by cases ho
  have hrest := read_above_finish u.reverse (braced t).length rest
  rw [List.reverse_reverse] at hrest
  rw [← hrest]
  change (State.read {} (braced t ++ rest)).bind State.finish = _
  rw [hread]
  have habove : (({} : State).advance (braced t).length).say u =
      ({} : State).above (.behind u.reverse) (braced t).length := by
    simp [State.advance, State.say, State.above, Ground.bear]
  rw [habove]

/-- **A group and what follows it are converted one after the other.** -/
theorem toText_group_append (h : toText t = .ok u) (hend : Ended t) (rest : Text) :
    (∀ v, toText rest = .ok v → toText (braced t ++ rest) = .ok (u ++ v)) ∧
      ∀ e, toText rest = .error e →
        ∃ message, toText (braced t ++ rest) =
          .error (.transform "latex_to_text".toList message) := by
  rw [toText, toText, convert_group_append (convert_of_toText h) hend rest]
  cases convert rest with
  | ok v =>
    refine ⟨fun v' hv => ?_, fun e he => by cases he⟩
    cases hv
    rfl
  | error f =>
    refine ⟨fun v hv => (by cases hv), fun e _ => ⟨_, rfl⟩⟩

/-- A macro that waits at the end of a group gets no argument from what follows the group. -/
theorem toText_group_waiting :
    toText "\\SI5 \\section* ".toList = .ok "5  \nSection: \n ".toList ∧
      Ended "\\SI5 \\section* ".toList ∧ toText "[x]\x7by\x7d".toList = .ok "[x]y".toList ∧
      toText (braced "\\SI5 \\section* ".toList ++ "[x]\x7by\x7d".toList) =
        .ok ("5  \nSection: \n ".toList ++ "[x]y".toList) := by
  have h : toText "\\SI5 \\section* ".toList = .ok "5  \nSection: \n ".toList := by cbv
  have hend : Ended "\\SI5 \\section* ".toList := by decide
  have hrest : toText "[x]\x7by\x7d".toList = .ok "[x]y".toList := by cbv
  exact ⟨h, hend, hrest, (toText_group_append h hend _).1 _ hrest⟩

end Lector.Latex
