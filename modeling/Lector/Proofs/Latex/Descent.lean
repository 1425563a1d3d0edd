import Lector.Proofs.Latex.Signs

/-!
# The conversion as a recursive descent

A LaTeX text can be converted by a procedure that goes over it character by character and calls
itself for what stands in braces and brackets. Each activation of it has a task: it reads, or it is
in the middle of a comment or of a macro. A macro with arguments looks for each of them behind white
space; if there is none, the position is set back to where the search began. The descent is written
down here step by step, with its position, its callers and the number of its activations. What a
move of an activation is worth is measured in work: a bound for the steps that are left, which is
linear in the text ahead.

## Main definitions

* `Task`, `Activation`: what an activation of the procedure is at, and what it has said
* `Activation.move`: what an activation does at the next character
* `Descent`, `Descent.step`, `Descent.after`: the descent, step by step
* `Task.work`: a bound for the steps that are left
* `Sets`: where a position may be set
* `Move.Worth`: what a move is worth

## Main results

* `Sets.back`: a position may be set back over white space
* `Activation.move_worth`: each move keeps what holds of an activation, and takes off work
-/

namespace Lector.Latex

/-! ## Activations -/

/-- What an activation is at. -/
inductive Task
  /-- It reads the text up to what closes it. -/
  | read
  | comment
  /-- It stands behind a backslash. -/
  | escape
  /-- It stands behind some letters of a macro's name. -/
  | name (letters : Text)
  /-- It stands behind a macro, where an option may come. -/
  | option (p : Phrase)
  /-- It looks for an argument of a macro from a position on, and has some values already, the last
  first. -/
  | argument (p : Phrase) (values : List Text) (start : Nat)

/-- An activation of the procedure. -/
structure Activation where
  /-- The mark up to which it reads, if it does not read up to the end. -/
  closing : Option Char := none
  said : Text := []
  /-- What it is at. -/
  task : Task := .read

/-- What an activation does next. -/
inductive Move
  /-- It goes on at a position: where it stands, behind the next character, or further back. -/
  | go (position : Nat) (a : Activation)
  /-- It passes a character and calls an activation that reads up to a mark. -/
  | call (closing : Char)
  /-- It passes the mark that closes it, and is over. -/
  | leave
  | stop (result : Except Fault Text)

namespace Activation

/-- Says a text, and goes on reading. -/
def say (a : Activation) (t : Text) : Activation :=
  { a with said := t.reverse ++ a.said, task := .read }

/-- Asks for the next argument of a macro, or says the macro if it has got all. -/
def ask (a : Activation) (p : Phrase) (values : List Text) (position : Nat) : Activation :=
  if values.length < p.arguments then { a with task := .argument p values position }
  else a.say (fill p.pieces values.reverse)

/-- Meets a macro. -/
def meet (a : Activation) (name : Text) : Activation :=
  match reading? name with
  | some (.text t) => a.say t
  | some (.phrase p) => { a with task := .option p }
  | none => { a with task := .read }

/-- Goes on where an activation that it called is over. What the other has said is lost in an
option, an argument for a macro, and part of the text elsewhere. -/
def resume (a : Activation) (position : Nat) (said : Text) : Activation :=
  match a.task with
  | .option p => a.ask p [] position
  | .argument p values _ => a.ask p (said.reverse :: values) position
  | _ => a.say said.reverse

/-- What an activation does at the next character, or where none is left. -/
def move (a : Activation) (position : Nat) (next : Option Char) : Move :=
  match a.task with
  | .read =>
    match next with
    | none =>
      match a.closing with
      | none => .stop (.ok a.said.reverse)
      | some mark => .stop (.error ⟨.missing mark, position⟩)
    | some c =>
      if a.closing = some c then .leave
      else if c = '\x7d' then .stop (.error ⟨.unbalanced, position + 1⟩)
      else if c = '\x7b' then .call '\x7d'
      else if c = '%' then .go (position + 1) { a with task := .comment }
      else if c = '~' then .go (position + 1) (a.say [' '])
      else if c = '$' then .go (position + 1) a
      else if c = '\\' then .go (position + 1) { a with task := .escape }
      else .go (position + 1) (a.say [c])
  | .comment =>
    match next with
    | none => .go position { a with task := .read }
    | some c => .go (position + 1) (if c = '\n' then { a with task := .read } else a)
  | .escape =>
    match next with
    | none => .go position { a with task := .read }
    | some c => .go (position + 1) (if c.isAlpha then { a with task := .name [c] } else a.meet [c])
  | .name letters =>
    match next with
    | none => .go position (a.meet letters)
    | some c =>
      if c.isAlpha then .go (position + 1) { a with task := .name (letters ++ [c]) }
      else if c = '*' then .go (position + 1) (a.meet letters)
      else .go position (a.meet letters)
  | .option p => if next = some '[' then .call ']' else .go position (a.ask p [] position)
  | .argument p values start =>
    match next with
    | none => .go start (a.ask p ([] :: values) start)
    | some c =>
      if isBlank c then .go (position + 1) a
      else if c = '\x7b' then .call '\x7d'
      else if isArgument c then .go (position + 1) (a.ask p ([c] :: values) (position + 1))
      else .go start (a.ask p ([] :: values) start)

end Activation

/-- Where a descent stands. -/
structure Descent where
  position : Nat := 0
  /-- The activation that is at work. -/
  current : Activation := {}
  /-- The activations that wait for the one that they called, the last one first. -/
  callers : List Activation := []
  /-- The number of activations so far. -/
  begun : Nat := 1

namespace Descent

/-- An activation goes on at a position. -/
def goOn (d : Descent) (position : Nat) (a : Activation) : Descent :=
  { d with position := position, current := a }

/-- The activation at work passes a character and calls another one. -/
def call (d : Descent) (mark : Char) : Descent :=
  ⟨d.position + 1, { closing := some mark }, d.current :: d.callers, d.begun + 1⟩

/-- The activation at work passes the mark that closes it, and the one that called it goes on. -/
def leave (d : Descent) (a : Activation) (callers : List Activation) : Descent :=
  ⟨d.position + 1, a.resume (d.position + 1) d.current.said, callers, d.begun⟩

/-- A step of a descent into a text. It gives the result if the descent stops there. -/
def step (t : Text) (d : Descent) : Descent ⊕ Except Fault Text :=
  match d.current.move d.position t[d.position]? with
  | .go position a => .inl (d.goOn position a)
  | .call mark => .inl (d.call mark)
  | .leave =>
    match d.callers with
    | [] => .inr (.ok d.current.said.reverse)
    | a :: callers => .inl (d.leave a callers)
  | .stop result => .inr result

/-- Where a descent into a text stands after some steps, if it has not stopped before. -/
def after (t : Text) : Nat → Option Descent
  | 0 => some {}
  | n + 1 => (after t n).bind fun d => (d.step t).getLeft?

end Descent

/-! ## White space and brackets -/

/-- The number of white space characters at the start of a text. -/
def blanksOf (u : Text) : Nat := (u.takeWhile isBlank).length

/-- The number of opening braces and brackets in a text. -/
def bracketsOf (u : Text) : Nat := u.count '\x7b' + u.count '['

theorem blanksOf_le (u : Text) : blanksOf u ≤ u.length :=
  (List.takeWhile_prefix _).length_le

theorem blanksOf_append {b : Text} (hb : ∀ c ∈ b, isBlank c = true) (u : Text) :
    blanksOf (b ++ u) = b.length + blanksOf u := by
  rw [blanksOf, List.takeWhile_append_of_pos hb, List.length_append, blanksOf]

theorem blanksOf_cons_of_blank {c : Char} (h : isBlank c = true) (u : Text) :
    blanksOf (c :: u) = blanksOf u + 1 := by
  simp [blanksOf, h]

theorem blanksOf_cons_of_not_blank {c : Char} (h : isBlank c = false) (u : Text) :
    blanksOf (c :: u) = 0 := by
  simp [blanksOf, h]

theorem bracketsOf_append (u v : Text) : bracketsOf (u ++ v) = bracketsOf u + bracketsOf v := by
  simp only [bracketsOf, List.count_append]
  omega

theorem bracketsOf_le_of_sublist {u v : Text} (h : u.Sublist v) : bracketsOf u ≤ bracketsOf v :=
  Nat.add_le_add (h.count_le _) (h.count_le _)

theorem bracketsOf_blanks {b : Text} (hb : ∀ c ∈ b, isBlank c = true) : bracketsOf b = 0 := by
  have hnone {c : Char} (hc : isBlank c = false) : b.count c = 0 :=
    List.count_eq_zero.mpr fun h => by simp [hb c h] at hc
  rw [bracketsOf, hnone (by decide), hnone (by decide)]

/-! ## What a move is worth -/

/-- The phrases of a task take one argument or two, and not all of them are there yet. -/
def Task.Fits : Task → Prop
  | option p => 0 < p.arguments ∧ p.arguments ≤ 2
  | argument p values _ => values.length < p.arguments ∧ p.arguments ≤ 2
  | _ => True

/-- A search for an argument has passed white space only. -/
def Task.Tracks (t : Text) (position : Nat) : Task → Prop
  | argument _ _ start => ∃ blanks, t.drop start = blanks ++ t.drop position ∧
      blanks.length + start = position ∧ ∀ c ∈ blanks, isBlank c = true
  | _ => True

/-- A bound for the steps that are left, with a text ahead. White space ahead counts less, since it
may have been passed before. -/
def Task.work (ahead : Text) (position : Nat) : Task → Nat
  | read => 3 * ahead.length - 2 * blanksOf ahead
  | comment => 3 * ahead.length + 1
  | escape => 3 * ahead.length + 2
  | name _ => 3 * ahead.length + 4
  | option _ => 3 * ahead.length + 3
  | argument p values start =>
    if values.length + 1 < p.arguments then 3 * ahead.length + 2 * (position - start) + 2
    else 3 * ahead.length + (position - start) + 1 - blanksOf ahead

/-- An activation is closed by no white space, and its task fits. -/
structure Activation.Formed (a : Activation) : Prop where
  closes : ∀ mark, a.closing = some mark → isBlank mark = false
  fits : a.task.Fits

/-- An activation may stand at a position of a text. -/
structure Activation.Stands (t : Text) (position : Nat) (a : Activation) : Prop
    extends a.Formed where
  tracks : a.task.Tracks t position

/-- An activation may come to stand at a position, where less work is left than before. -/
def Activation.Reaches (t : Text) (position work : Nat) (a : Activation) : Prop :=
  a.Stands t position ∧ a.task.work (t.drop position) position < work

/-- A position may be set to another one: within the text, with no bracket taken back, and back over
white space only. -/
structure Sets (t : Text) (position n : Nat) : Prop where
  le : n ≤ t.length
  brackets : bracketsOf (t.take position) ≤ bracketsOf (t.take n)
  blank : ∀ c ∈ (t.take position).drop n, isBlank c = true

/-- What a move from a position is worth, if some work is left there. -/
def Move.Worth (t : Text) (position work : Nat) (a : Activation) : Move → Prop
  | go n b => b.closing = a.closing ∧ Sets t position n ∧ b.Reaches t n work
  | call mark => isBlank mark = false ∧ ∃ c, t[position]? = some c ∧ (c = '\x7b' ∨ c = '[') ∧
      3 * (t.drop (position + 1)).length < work
  | leave => a.task = .read ∧ ∃ mark, a.closing = some mark ∧ t[position]? = some mark
  | stop result => (∀ said, result = .ok said → position = t.length) ∧
      ∀ f, result = .error f → f.position ≤ t.length

/-! ### Positions -/

namespace Sets

variable {t : Text} {position n start : Nat}

/-- What is passed on the way forth is nothing to go back over. -/
theorem forth (hle : position ≤ n) (h : n ≤ t.length) : Sets t position n where
  le := h
  brackets := bracketsOf_le_of_sublist (List.take_prefix_take_left hle).sublist
  blank := by
    rw [List.drop_of_length_le (Nat.le_trans (List.length_take_le _ _) hle)]
    simp

theorem stay (h : position ≤ t.length) : Sets t position position := forth (Nat.le_refl _) h

theorem pass (h : position < t.length) : Sets t position (position + 1) :=
  forth (Nat.le_succ _) h

/-- A position that is set back over white space has passed the same brackets. -/
theorem back (h : position ≤ t.length) {blanks : Text}
    (hdrop : t.drop start = blanks ++ t.drop position)
    (hlength : blanks.length + start = position) (hblanks : ∀ c ∈ blanks, isBlank c = true) :
    Sets t position start where
  le := Nat.le_trans (hlength ▸ Nat.le_add_left _ _) h
  brackets := by
    have htake : t.take position = t.take start ++ blanks := by
      rw [← hlength, Nat.add_comm, List.take_add, hdrop, List.take_left]
    exact Nat.le_of_eq (by rw [htake, bracketsOf_append, bracketsOf_blanks hblanks, Nat.add_zero])
  blank := by
    rw [List.drop_take, hdrop, ← hlength, Nat.add_sub_cancel, List.take_left]
    exact hblanks

end Sets

namespace Activation

variable {t : Text} {position : Nat} {a : Activation} {p : Phrase} {values : List Text}

/-- The macros that take arguments take one or two. -/
theorem fits_of_reading? {name : Text} (h : reading? name = some (.phrase p)) :
    (Task.option p).Fits := by
  have htable : ∀ r ∈ readings, ∀ p, r.2 = .phrase p → 0 < p.arguments ∧ p.arguments ≤ 2 := by
    simp [readings, phrase]
  rcases of_reading? h with ⟨n, hmem, -⟩ | ⟨g, -, -, hr⟩
  · exact htable _ hmem p rfl
  · cases hr

@[simp] theorem closing_say (a : Activation) (t : Text) : (a.say t).closing = a.closing := rfl

@[simp] theorem closing_ask (a : Activation) (p : Phrase) (values : List Text) (position : Nat) :
    (a.ask p values position).closing = a.closing := by
  unfold ask
  split <;> rfl

@[simp] theorem closing_meet (a : Activation) (name : Text) :
    (a.meet name).closing = a.closing := by
  unfold meet
  split <;> rfl

/-! ### Activations that come to stand somewhere -/

theorem work_read_le (ahead : Text) (position : Nat) :
    Task.read.work ahead position ≤ 3 * ahead.length := Nat.sub_le _ _

theorem Formed.stands_of_read {b : Activation} (h : a.Formed) {n : Nat}
    (hclosing : b.closing = a.closing) (hb : b.task = .read) : b.Stands t n where
  closes := by rw [hclosing]; exact h.closes
  fits := by rw [hb]; trivial
  tracks := by rw [hb]; trivial

/-- An activation that asks for an argument stands where the search for it begins. -/
theorem Formed.ask (h : a.Formed) (hp : p.arguments ≤ 2) (values : List Text) (n : Nat) :
    (a.ask p values n).Stands t n := by
  unfold Activation.ask
  split
  next hlt => exact ⟨⟨h.closes, hlt, hp⟩, [], rfl, Nat.zero_add n, by simp⟩
  next => exact h.stands_of_read rfl rfl

theorem Formed.meet (h : a.Formed) (name : Text) (n : Nat) :
    (a.meet name).Stands t n := by
  unfold Activation.meet
  split
  next => exact h.stands_of_read rfl rfl
  next p hp => exact ⟨⟨h.closes, fits_of_reading? hp⟩, trivial⟩
  next => exact h.stands_of_read rfl rfl

theorem work_meet_le (a : Activation) (name ahead : Text) (n : Nat) :
    (a.meet name).task.work ahead n ≤ 3 * ahead.length + 3 := by
  have hread := work_read_le ahead n
  unfold meet
  split
  next => exact Nat.le_trans hread (Nat.le_add_right _ 3)
  next => exact Nat.le_refl _
  next => exact Nat.le_trans hread (Nat.le_add_right _ 3)

theorem work_ask_nil_le (a : Activation) (p : Phrase) (ahead : Text) (n : Nat) :
    (a.ask p [] n).task.work ahead n ≤ 3 * ahead.length + 2 := by
  have hread := work_read_le ahead n
  unfold ask
  split
  next =>
    simp only [Task.work]
    split
    next => omega
    next => omega
  next => exact Nat.le_trans hread (Nat.le_add_right _ 2)

/-- Each argument that is there makes the work less. -/
theorem work_ask_cons_le (a : Activation) (hp : p.arguments ≤ 2) (v : Text) (values : List Text)
    (ahead : Text) (n : Nat) :
    (a.ask p (v :: values) n).task.work ahead n ≤
      if values.length + 1 < p.arguments then 3 * ahead.length + 1 - blanksOf ahead
      else 3 * ahead.length - 2 * blanksOf ahead := by
  unfold ask
  split
  next hlt =>
    have hlast : ¬ (v :: values).length + 1 < p.arguments := by
      simp only [List.length_cons]
      omega
    have hmore : values.length + 1 < p.arguments := hlt
    simp only [Task.work, if_neg hlast, if_pos hmore]
    omega
  next hlt =>
    have hlast : ¬ values.length + 1 < p.arguments := hlt
    rw [if_neg hlast]
    exact Nat.le_refl _

/-- A text is at its end at a position, or there is a next character. -/
theorem ahead_cases (t : Text) (position : Nat) :
    (t[position]? = none ∧ t.drop position = []) ∨
      ∃ c u, t[position]? = some c ∧ t.drop position = c :: u ∧ t.drop (position + 1) = u ∧
        position < t.length := by
  by_cases h : position < t.length
  · exact .inr ⟨t[position], t.drop (position + 1), List.getElem?_eq_getElem h,
      List.drop_eq_getElem_cons h, rfl, h⟩
  · exact .inl ⟨List.getElem?_eq_none (Nat.le_of_not_lt h), List.drop_of_length_le
      (Nat.le_of_not_lt h)⟩

/-! ### The moves of the tasks -/

theorem worth_read (h : a.Stands t position) (hposition : position ≤ t.length)
    (ha : a.task = .read) :
    (a.move position t[position]?).Worth t position (Task.read.work (t.drop position) position)
      a := by
  rcases ahead_cases t position with ⟨hnext, hahead⟩ | ⟨c, u, hnext, hahead, hrest, hlt⟩
  · rw [hnext, hahead]
    simp only [move, ha]
    have hend : position = t.length :=
      Nat.le_antisymm hposition (List.getElem?_eq_none_iff.mp hnext)
    split
    next => exact ⟨fun _ _ => hend, by simp⟩
    next =>
      refine ⟨by simp, ?_⟩
      rintro _ ⟨⟩
      exact hposition
  rw [hnext, hahead]
  simp only [move, ha]
  -- All characters that are passed or open something are worth one, and all but white space three.
  have hread (b : Activation) (hclosing : b.closing = a.closing) (hb : b.task = .read) :
      b.Reaches t (position + 1) (Task.read.work (c :: u) position) := by
    refine ⟨h.stands_of_read hclosing hb, ?_⟩
    rw [hb, hrest]
    have hle := blanksOf_le u
    simp only [Task.work, List.length_cons]
    cases hblank : isBlank c with
    | true =>
      rw [blanksOf_cons_of_blank hblank]
      omega
    | false =>
      rw [blanksOf_cons_of_not_blank hblank]
      omega
  have hworth (hblank : isBlank c = false) :
      Task.read.work (c :: u) position = 3 * u.length + 3 := by
    simp only [Task.work, blanksOf_cons_of_not_blank hblank, List.length_cons]
    omega
  split
  next hclosing => exact ⟨ha, c, hclosing, hnext⟩
  split
  next =>
    refine ⟨by simp, ?_⟩
    rintro _ ⟨⟩
    exact hlt
  split
  next hc =>
    refine ⟨by decide, c, hnext, .inl hc, ?_⟩
    rw [hworth (by rw [hc]; decide), hrest]
    omega
  split
  next hc =>
    refine ⟨rfl, .pass hlt, ⟨⟨h.closes, trivial⟩, trivial⟩, ?_⟩
    rw [hworth (by rw [hc]; decide), hrest]
    simp only [Task.work]
    omega
  split
  next => exact ⟨rfl, .pass hlt, hread _ rfl rfl⟩
  split
  next => exact ⟨rfl, .pass hlt, hread _ rfl ha⟩
  split
  next hc =>
    refine ⟨rfl, .pass hlt, ⟨⟨h.closes, trivial⟩, trivial⟩, ?_⟩
    rw [hworth (by rw [hc]; decide), hrest]
    simp only [Task.work]
    omega
  next => exact ⟨rfl, .pass hlt, hread _ rfl rfl⟩

theorem worth_comment (h : a.Stands t position) (hposition : position ≤ t.length)
    (ha : a.task = .comment) :
    (a.move position t[position]?).Worth t position
      (Task.comment.work (t.drop position) position) a := by
  rcases ahead_cases t position with ⟨hnext, hahead⟩ | ⟨c, u, hnext, hahead, hrest, hlt⟩
  · rw [hnext]
    simp only [move, ha]
    refine ⟨rfl, .stay hposition, h.stands_of_read rfl rfl, ?_⟩
    simp only [Task.work]
    omega
  rw [hnext, hahead]
  simp only [move, ha]
  split
  next =>
    refine ⟨rfl, .pass hlt, h.stands_of_read rfl rfl, ?_⟩
    rw [hrest]
    simp only [Task.work, List.length_cons]
    omega
  next =>
    refine ⟨rfl, .pass hlt, ⟨h.toFormed, by rw [ha]; trivial⟩, ?_⟩
    rw [ha, hrest]
    simp only [Task.work, List.length_cons]
    omega

theorem worth_escape (h : a.Stands t position) (hposition : position ≤ t.length)
    (ha : a.task = .escape) :
    (a.move position t[position]?).Worth t position
      (Task.escape.work (t.drop position) position) a := by
  rcases ahead_cases t position with ⟨hnext, hahead⟩ | ⟨c, u, hnext, hahead, hrest, hlt⟩
  · rw [hnext]
    simp only [move, ha]
    refine ⟨rfl, .stay hposition, h.stands_of_read rfl rfl, ?_⟩
    simp only [Task.work]
    omega
  rw [hnext, hahead]
  simp only [move, ha]
  split
  next =>
    refine ⟨rfl, .pass hlt, ⟨⟨h.closes, trivial⟩, trivial⟩, ?_⟩
    rw [hrest]
    simp only [Task.work, List.length_cons]
    omega
  next =>
    refine ⟨closing_meet a _, .pass hlt, h.meet _ _, Nat.lt_of_le_of_lt (work_meet_le a _ _ _) ?_⟩
    rw [hrest]
    simp only [Task.work, List.length_cons]
    omega

theorem worth_name (h : a.Stands t position) (hposition : position ≤ t.length) {letters : Text}
    (ha : a.task = .name letters) :
    (a.move position t[position]?).Worth t position
      ((Task.name letters).work (t.drop position) position) a := by
  have hstay : (Move.go position (a.meet letters)).Worth t position
      ((Task.name letters).work (t.drop position) position) a :=
    ⟨closing_meet a _, .stay hposition, h.meet _ _, Nat.lt_succ_of_le (work_meet_le a _ _ _)⟩
  rcases ahead_cases t position with ⟨hnext, hahead⟩ | ⟨c, u, hnext, hahead, hrest, hlt⟩
  · rw [hnext]
    simpa only [move, ha] using hstay
  rw [hnext]
  simp only [move, ha]
  split
  next =>
    refine ⟨rfl, .pass hlt, ⟨⟨h.closes, trivial⟩, trivial⟩, ?_⟩
    rw [hrest, hahead]
    simp only [Task.work, List.length_cons]
    omega
  split
  next =>
    refine ⟨closing_meet a _, .pass hlt, h.meet _ _, Nat.lt_of_le_of_lt (work_meet_le a _ _ _) ?_⟩
    rw [hrest, hahead]
    simp only [Task.work, List.length_cons]
    omega
  next => exact hstay

theorem worth_option (h : a.Stands t position) (hposition : position ≤ t.length)
    (ha : a.task = .option p) :
    (a.move position t[position]?).Worth t position
      ((Task.option p).work (t.drop position) position) a := by
  have hfits : (Task.option p).Fits := ha ▸ h.fits
  simp only [move, ha]
  split
  next hnext =>
    -- The called activation may use up all that is ahead; its mark will pay for the arguments.
    refine ⟨by decide, '[', hnext, .inr rfl, ?_⟩
    simp only [Task.work, List.length_drop]
    omega
  next =>
    exact ⟨closing_ask a _ _ _, .stay hposition, h.ask hfits.2 _ _,
      Nat.lt_succ_of_le (work_ask_nil_le a p _ _)⟩

theorem worth_argument (h : a.Stands t position) (hposition : position ≤ t.length) {start : Nat}
    (ha : a.task = .argument p values start) :
    (a.move position t[position]?).Worth t position
      ((Task.argument p values start).work (t.drop position) position) a := by
  have hfits : (Task.argument p values start).Fits := ha ▸ h.fits
  obtain ⟨blanks, hdrop, hlength, hblanks⟩ : (Task.argument p values start).Tracks t position :=
    ha ▸ h.tracks
  have hskipped : position - start = blanks.length := by omega
  -- Where no argument comes, no white space is ahead, and what was passed comes to be ahead again.
  have hback (hahead : blanksOf (t.drop position) = 0) :
      (Move.go start (a.ask p ([] :: values) start)).Worth t position
        ((Task.argument p values start).work (t.drop position) position) a := by
    refine ⟨closing_ask a _ _ _, .back hposition hdrop hlength hblanks, h.ask hfits.2 _ _, ?_⟩
    refine Nat.lt_of_le_of_lt (work_ask_cons_le a hfits.2 _ _ _ _) ?_
    rw [hdrop, blanksOf_append hblanks, hahead, List.length_append]
    simp only [Task.work, hskipped, hahead]
    split
    next => omega
    next => omega
  rcases ahead_cases t position with ⟨hnext, hahead⟩ | ⟨c, u, hnext, hahead, hrest, hlt⟩
  · rw [hnext]
    simp only [move, ha]
    exact hback (by rw [hahead]; rfl)
  rw [hnext]
  simp only [move, ha]
  split
  next hblank =>
    refine ⟨rfl, .pass hlt, ⟨h.toFormed, ?_⟩, ?_⟩
    · rw [ha]
      refine ⟨blanks ++ [c], ?_, ?_, ?_⟩
      · rw [hdrop, hahead, hrest, List.append_assoc, List.singleton_append]
      · rw [List.length_append, List.length_singleton]
        omega
      · simpa [or_imp, forall_and, hblank] using hblanks
    · have hle := blanksOf_le u
      rw [ha, hrest, hahead]
      -- One character less is ahead, and one more may have to be passed again for each argument.
      simp only [Task.work, List.length_cons, blanksOf_cons_of_blank hblank]
      split
      next => omega
      next => omega
  next hblank =>
    have hnone : blanksOf (t.drop position) = 0 := by
      rw [hahead, blanksOf_cons_of_not_blank (eq_false_of_ne_true hblank)]
    have hwork : 3 * u.length + 3 < (Task.argument p values start).work (t.drop position)
        position := by
      simp only [Task.work, hnone]
      rw [hahead, List.length_cons]
      split
      next => omega
      next => omega
    split
    next hc =>
      refine ⟨by decide, c, hnext, .inl hc, ?_⟩
      rw [hrest]
      omega
    split
    next =>
      refine ⟨closing_ask a _ _ _, .pass hlt, h.ask hfits.2 _ _, ?_⟩
      refine Nat.lt_of_le_of_lt (work_ask_cons_le a hfits.2 _ _ _ _) ?_
      rw [hrest]
      split
      next => omega
      next => omega
    next => exact hback hnone

/-- **What each move is worth**: it keeps what holds of an activation, and takes off work. -/
theorem move_worth (h : a.Stands t position) (hposition : position ≤ t.length) :
    (a.move position t[position]?).Worth t position (a.task.work (t.drop position) position)
      a := by
  cases ha : a.task with
  | read => exact worth_read h hposition ha
  | comment => exact worth_comment h hposition ha
  | escape => exact worth_escape h hposition ha
  | name letters => exact worth_name h hposition ha
  | option p => exact worth_option h hposition ha
  | argument p values start => exact worth_argument h hposition ha

/-- An activation that is called back goes on behind the mark that closed the other. -/
theorem Formed.resume (h : a.Formed) (n : Nat) (said : Text) : (a.resume n said).Stands t n := by
  unfold Activation.resume
  split
  next p ha =>
    have hfits : (Task.option p).Fits := ha ▸ h.fits
    exact h.ask hfits.2 _ _
  next p values _ ha =>
    have hfits : (Task.argument p values _).Fits := ha ▸ h.fits
    exact h.ask hfits.2 _ _
  next => exact h.stands_of_read rfl rfl

@[simp] theorem closing_resume (a : Activation) (n : Nat) (said : Text) :
    (a.resume n said).closing = a.closing := by
  unfold resume
  split <;> simp

theorem Formed.work_resume_le (h : a.Formed) (n : Nat) (said ahead : Text) :
    (a.resume n said).task.work ahead n ≤ 3 * ahead.length + 2 := by
  unfold Activation.resume
  split
  next p ha => exact work_ask_nil_le a p ahead n
  next p values _ ha =>
    have hfits : (Task.argument p values _).Fits := ha ▸ h.fits
    refine Nat.le_trans (work_ask_cons_le a hfits.2 _ _ _ _) ?_
    split
    next => omega
    next => omega
  next => exact Nat.le_trans (work_read_le ahead n) (Nat.le_add_right _ 2)

end Activation

end Lector.Latex
