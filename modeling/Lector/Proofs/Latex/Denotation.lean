import Lector.Proofs.Latex.Document

/-!
# A document is read as it is spoken

The conversion goes over a text with a stack, a document is a tree. They are brought together by
what a part of a text does to the state of the conversion, whatever follows: a text that is read as
another one adds that one to what is said and leaves the rest of the state alone. Such texts can be
put together in all the ways in which documents are built.

## Main definitions

* `State.read`: the conversion of a text from a state on
* `ReadAs`: a text is read as another one
* `Skipped`: a text is skipped as the option of a macro

## Main results

* `ReadAs.append`, `ReadAs.group`, `ReadAs.phrase`: texts that are read are put together
* `toText_source`: a document is converted to what it is spoken as
-/

namespace Lector.Latex

namespace State

/-- Converts a text from a state on. -/
def read (s : State) (t : Text) : Except Fault State := run s (tokens t)

/-- Counts characters as read. -/
def advance (s : State) (n : Nat) : State := { s with position := s.position + n }

/-- Lets a macro wait. -/
def wait (s : State) (w : Waiting) : State := { s with waiting := some w }

/-- Whether the innermost enclosure is an option. -/
def inOption (s : State) : Bool :=
  match s.opens with
  | .option _ _ :: _ => true
  | _ => false

@[simp] theorem read_nil (s : State) : s.read [] = .ok s := by
  simp [read]

/-- A token is converted before what follows it. -/
theorem read_source_append (s : State) {k : Token} {rest : Text} (h : k.Before rest) :
    s.read (k.source ++ rest) = (s.step k).bind fun s => s.read rest := by
  rw [read, tokens_source_append h, run_cons]
  rfl

@[simp] theorem waiting_advance (s : State) (n : Nat) : (s.advance n).waiting = s.waiting := rfl

@[simp] theorem waiting_say (s : State) (t : Text) : (s.say t).waiting = s.waiting := rfl

@[simp] theorem inOption_advance (s : State) (n : Nat) : (s.advance n).inOption = s.inOption := rfl

@[simp] theorem inOption_say (s : State) (t : Text) : (s.say t).inOption = s.inOption := rfl

@[simp] theorem say_nil (s : State) : s.say [] = s := rfl

/-- A group that is closed again leaves what it says. -/
theorem close_group {s : State} (h : s.waiting = none) (t : Text) :
    ((s.enclose (.group s.done)).say t).close = .ok (s.say t) := by
  simp [close, enclose, say, h]

/-- An argument that is closed goes to the macro that waits for it. -/
theorem close_argument (s : State) (w : Waiting) (t : Text) :
    ((s.enclose (.argument s.done w)).say t).close = .ok (s.supply w t) := by
  simp [close, enclose, say, supply]

/-- When an option is closed, what it says is lost, and the macro waits on. -/
theorem hear_option (s : State) (p : Phrase) (t : Text) :
    ((s.enclose (.option s.done p)).say t).hear ']' =
      s.wait { phrase := p, fresh := false } := rfl

/-- A character is said, unless it closes an option. -/
theorem hear_eq_say {s : State} {c : Char} (h : s.inOption = true → c ≠ ']') :
    s.hear c = s.say [c] := by
  unfold hear
  split
  next before p opens ho => exact absurd rfl (h (by simp [inOption, ho]))
  next => rfl

theorem say_say (s : State) (t u : Text) : (s.say t).say u = s.say (t ++ u) := by
  simp [say]

theorem advance_advance (s : State) (m n : Nat) :
    (s.advance m).advance n = s.advance (m + n) := by
  simp [advance, Nat.add_assoc]

theorem advance_say (s : State) (t : Text) (n : Nat) :
    (s.say t).advance n = (s.advance n).say t := rfl

theorem advance_enclose (s : State) (o : Open) (n : Nat) :
    (s.enclose o).advance n = (s.advance n).enclose o := rfl

/-- While no macro waits, a token is converted for itself. -/
theorem step_of_free {s : State} (h : s.waiting = none) (k : Token) :
    s.step k = (s.advance k.source.length).stepFree k := by
  obtain ⟨done, opens, waiting, position⟩ := s
  obtain rfl : waiting = none := h
  rfl

end State

/-- A text is read as another one wherever no macro waits, whatever follows. Where the innermost
enclosure is an option, this only holds if `anywhere`. -/
def ReadAs (anywhere : Bool) (t spoken : Text) : Prop :=
  ∀ (s : State) (rest : Text), s.waiting = none → (s.inOption = true → anywhere = true) →
    s.read (t ++ rest) = ((s.advance t.length).say spoken).read rest

namespace ReadAs

variable {b b' : Bool} {t t' u u' : Text}

/-- A text that is read as another one in an option is so everywhere. -/
theorem outside (h : ReadAs b t u) : ReadAs false t u := by
  intro s rest hs hb
  refine h s rest hs fun ho => ?_
  cases hb ho

theorem nil : ReadAs true [] [] := by
  intro s rest _ _
  rfl

/-- **Texts are read one after another.** -/
theorem append (h : ReadAs b t u) (h' : ReadAs b' t' u') :
    ReadAs (b && b') (t ++ t') (u ++ u') := by
  intro s rest hs hb
  have hboth (ho : s.inOption = true) : b = true ∧ b' = true := by simpa using hb ho
  rw [List.append_assoc, h s _ hs fun ho => (hboth ho).1]
  rw [h' _ rest (by simpa using hs) fun ho => (hboth (by simpa using ho)).2]
  rw [State.advance_say, State.advance_advance, State.say_say, List.length_append]

/-- A text is read between two tokens that open and close what encloses it. -/
theorem enclosed (h : ReadAs b t u) {s s' : State} {o : Open} {k k' : Token} {rest : Text}
    (hk : ∀ r, k.Before r) (hk' : k'.Before rest)
    (hopen : s.step k = .ok ((s.advance k.source.length).enclose o))
    (hb : (s.enclose o).inOption = true → b = true)
    (hclose : (((s.advance (k.source.length + (t.length + k'.source.length))).enclose o).say
      u).stepFree k' = .ok s') :
    s.read (k.source ++ (t ++ (k'.source ++ rest))) = s'.read rest := by
  have hstep : ((((s.advance k.source.length).enclose o).advance t.length).say u).step k' =
      .ok s' := by
    rw [State.step_of_free rfl, State.advance_say, State.advance_advance, State.advance_enclose]
    rw [State.advance_advance, hclose]
  rw [s.read_source_append (hk _), hopen]
  -- Inside, the text is read as it would be outside: its reading was shown for all states.
  change ((s.advance k.source.length).enclose o).read _ = _
  rw [h ((s.advance k.source.length).enclose o) _ rfl hb, State.read_source_append _ hk', hstep]
  rfl

/-- **A group is read as what it holds**, also in an option. -/
theorem group (h : ReadAs b t u) : ReadAs true (braced t) u := by
  intro s rest hs _
  have hclose := State.close_group (s := s.advance (1 + (t.length + 1))) hs u
  rw [braced_append, length_braced]
  exact h.enclosed Token.before_opening (Token.before_closing rest) (State.step_of_free hs _)
    (fun ho => by cases ho) hclose

/-- A token that says something, and does nothing else, is read as that. -/
theorem token {k : Token} (hk : ∀ rest, k.Before rest)
    (hs : ∀ s : State, (s.inOption = true → b = true) → s.stepFree k = .ok (s.say u)) :
    ReadAs b k.source u := by
  intro s rest hw hb
  rw [s.read_source_append (hk rest), State.step_of_free hw, hs (s.advance _) hb]
  rfl

theorem char {c : Char} (h : c ∉ specials) : ReadAs (c ≠ ']') [c] [c] :=
  token (k := .char c) (fun _ => h) fun s hb => by
    rw [State.stepFree, State.hear_eq_say (by simpa using hb)]

theorem escape {c : Char} (h : c.isAlpha = false) (hr : reading? [c] = some (.text u)) :
    ReadAs true ['\\', c] u :=
  token (k := .symbol c) (fun _ => h) fun s _ => by
    simp only [State.stepFree, State.meet, hr]

end ReadAs

/-! ## Macros and their arguments -/

/-- Arguments as they are written, one after another. -/
def argumentsSource (args : List (Text × Text)) : Text := args.flatMap fun a => braced a.1

namespace State

variable {t u : Text}

/-- An option in front of the arguments is skipped. -/
theorem read_option (h : ReadAs true t u) (s : State) (p : Phrase) (rest : Text) :
    (s.wait { phrase := p }).read (bracketed t ++ rest) =
      ((s.advance (bracketed t).length).wait { phrase := p, fresh := false }).read rest := by
  have hclose := hear_option (s.advance (1 + (t.length + 1))) p u
  rw [bracketed_append, length_bracketed]
  exact h.enclosed (Token.before_char (by decide)) (Token.before_char (by decide) rest) rfl
    (fun _ => rfl) (congrArg Except.ok hclose)

/-- An argument is read for the macro that waits for it. -/
theorem read_argument (h : ReadAs false t u) (s : State) (w : Waiting) (rest : Text) :
    (s.wait w).read (braced t ++ rest) =
      ((s.advance (braced t).length).supply w u).read rest := by
  have hclose := close_argument (s.advance (1 + (t.length + 1))) w u
  rw [braced_append, length_braced]
  exact h.enclosed Token.before_opening (Token.before_closing rest) rfl (fun ho => by cases ho)
    hclose

/-- A macro that needs more arguments than it has got waits on. -/
theorem supply_of_lt {w : Waiting} (h : w.arguments.length + 1 < w.phrase.arguments) (s : State)
    (t : Text) : s.supply w t =
      s.wait { w with arguments := t :: w.arguments, fresh := false, blanks := [] } := by
  simp [supply, wait, h]

/-- A macro that has got all its arguments is spoken. -/
theorem supply_last {s : State} (hs : s.waiting = none) {w : Waiting}
    (h : w.arguments.length + 1 = w.phrase.arguments) (t : Text) :
    s.supply w t = s.say (fill w.phrase.pieces (w.arguments.reverse ++ [t])) := by
  simp [supply, say, Waiting.spoken, h, hs]

/-- **A macro is spoken when all its arguments have been read**, with what they are read as. -/
theorem read_arguments {args : List (Text × Text)} (h : ∀ a ∈ args, ReadAs false a.1 a.2)
    {s : State} (hs : s.waiting = none) (w : Waiting) (hne : args ≠ [])
    (hn : w.arguments.length + args.length = w.phrase.arguments) (rest : Text) :
    (s.wait w).read (argumentsSource args ++ rest) =
      ((s.advance (argumentsSource args).length).say
        (fill w.phrase.pieces (w.arguments.reverse ++ args.map Prod.snd))).read rest := by
  -- The macro waits on after each argument but the last, so `w` changes along the induction.
  induction args generalizing s w with
  | nil => exact absurd rfl hne
  | cons a args ih =>
    have ha : ReadAs false a.1 a.2 := h a (by simp)
    have hw : (s.advance (braced a.1).length).waiting = none := hs
    have hsource : argumentsSource (a :: args) = braced a.1 ++ argumentsSource args := rfl
    rw [hsource, List.append_assoc, read_argument ha]
    cases args with
    | nil =>
      rw [supply_last hw (by simpa using hn)]
      simp [argumentsSource]
    | cons a' args =>
      have hmore : w.arguments.length + 1 < w.phrase.arguments := by
        rw [← hn]
        simp
      rw [supply_of_lt hmore, ih (fun a ha => h a (by simp [ha])) hw _ (by simp)]
      · rw [advance_advance, List.length_append]
        simp
      · rw [← hn]
        simp [Nat.add_comm, Nat.add_left_comm]

/-- A macro is met when its name is read, with its star. -/
theorem read_macroSource {name : Text} (hn : IsName name)
    (starred : Bool) {s : State} (hs : s.waiting = none) {rest : Text}
    (hr : rest.head? = some '[' ∨ rest.head? = some '\x7b') :
    s.read (macroSource name starred ++ rest) =
      ((s.advance (macroSource name starred).length).meet name).read rest := by
  have hb : (Token.word name starred).Before rest := by
    -- Neither a bracket nor a brace goes on with the name, or could be its star.
    refine ⟨hn.1, List.all_eq_true.mp hn.2, Or.inr fun c hc => ?_⟩
    rcases hr with hr | hr
    · obtain rfl : '[' = c := by simpa [hr] using hc
      decide
    · obtain rfl : '\x7b' = c := by simpa [hr] using hc
      decide
  rw [macroSource, s.read_source_append hb, step_of_free hs]
  rfl

end State

/-- A text is skipped as the option of a macro. -/
def Skipped (o : Text) : Prop :=
  (o = [] ∨ o.head? = some '[') ∧ ∃ fresh, ∀ (s : State) (p : Phrase) (rest : Text),
    (s.wait { phrase := p }).read (o ++ rest) =
      ((s.advance o.length).wait { phrase := p, fresh := fresh }).read rest

section Macros

variable {b : Bool} {name t u v : Text} (hn : IsName name)

include hn

/-- A macro without arguments is read as its text, and what follows as itself. -/
theorem ReadAs.mark (h : ReadAs b t u) (starred : Bool) (hm : ∀ s : State, s.meet name = s.say v) :
    ReadAs true (macroSource name starred ++ braced t) (v ++ u) := by
  intro s rest hs _
  have hmet : ((s.advance (macroSource name starred).length).say v).waiting = none := hs
  rw [List.append_assoc, State.read_macroSource hn starred hs (Or.inr rfl), hm]
  rw [h.group _ rest hmet fun _ => rfl]
  rw [State.advance_say, State.advance_advance, State.say_say, List.length_append]

/-- **A macro with arguments is read as its phrase**, with what the arguments are read as set in. -/
theorem ReadAs.phrase (starred : Bool) {p : Phrase} (hr : reading? name = some (.phrase p))
    {o : Text} (ho : Skipped o) {args : List (Text × Text)} (h : ∀ a ∈ args, ReadAs false a.1 a.2)
    (hne : args ≠ []) (hl : args.length = p.arguments) :
    ReadAs true (macroSource name starred ++ (o ++ argumentsSource args))
      (fill p.pieces (args.map Prod.snd)) := by
  obtain ⟨hhead, fresh, hskip⟩ := ho
  obtain ⟨a, args', rfl⟩ := List.exists_cons_of_ne_nil hne
  intro s rest hs _
  have hfirst : (o ++ (argumentsSource (a :: args') ++ rest)).head? = some '[' ∨
      (o ++ (argumentsSource (a :: args') ++ rest)).head? = some '\x7b' := by
    rcases hhead with rfl | hhead
    · exact Or.inr rfl
    · exact Or.inl (by simp [List.head?_append, hhead])
  rw [List.append_assoc, List.append_assoc, State.read_macroSource hn starred hs hfirst]
  have hmeet (s : State) : s.meet name = s.wait { phrase := p } := by
    simp [State.meet, hr, State.wait]
  rw [hmeet, hskip, State.read_arguments h (by simpa using hs) _ hne (by simpa using hl)]
  simp only [State.advance_advance, List.length_append, Nat.add_assoc]
  rfl

end Macros

/-! ## The walk over a document -/

mutual

/-- An item is read as it is spoken; in an option, unless it is a closing bracket. -/
theorem Item.readAs : (i : Item) → i.delimited = true → ReadAs (!i.isBracket) i.source i.spoken
  | .char c, _ => by
    simpa [Item.isBracket, Item.source, Item.spoken] using ReadAs.char c.2
  | .tie, _ => ReadAs.token (k := .tie) (fun _ => trivial) fun _ _ => rfl
  | .math, _ => ReadAs.token (k := .math) (fun _ => trivial) fun _ _ => rfl
  | .comment t, _ =>
    ReadAs.token (k := .comment t.1 true) (fun _ => ⟨t.2, Or.inl rfl⟩) fun _ _ => rfl
  | .group items, h => by
    have hitems := readAs_all items (by simpa [Item.delimited] using h)
    exact hitems.group
  | .escape e, _ => ReadAs.escape (isAlpha_escape e.1 e.2) (reading?_escape e.1 e.2)
  | .word w, _ => by
    have hm (s : State) : s.meet w.1.1.toList = s.say w.1.2.toList := by
      simp only [State.meet, reading?_word w.1 w.2]
    simpa [Item.isBracket, Item.source, Item.spoken] using
      ReadAs.nil.mark (isName_word w.1 w.2) false hm
  | .unary m starred option argument, h => by
    have h : optionDelimited option = true ∧ delimitedAll argument = true := by
      simpa [Item.delimited] using h
    -- A closing bracket may stand bare in an argument, but not in the option.
    have hargument := (readAs_all argument h.2).outside
    let args : List (Text × Text) := [(sourceAll argument, spokenAll argument)]
    have hargs : ∀ a ∈ args, ReadAs false a.1 a.2 := by
      simpa [args] using hargument
    have hread := ReadAs.phrase m.isName starred m.reading?_name (skipped_option option h.1) hargs
      (by simp [args]) rfl
    simpa [args, argumentsSource, Item.isBracket, Item.source, Item.spoken, m.fill_pieces] using
      hread
  | .binary m starred option first second, h => by
    have h : (optionDelimited option = true ∧ delimitedAll first = true) ∧
        delimitedAll second = true := by
      simpa [Item.delimited] using h
    have hfirst := (readAs_all first h.1.2).outside
    have hsecond := (readAs_all second h.2).outside
    let args : List (Text × Text) :=
      [(sourceAll first, spokenAll first), (sourceAll second, spokenAll second)]
    have hargs : ∀ a ∈ args, ReadAs false a.1 a.2 := by
      simpa [args] using And.intro hfirst hsecond
    have hread := ReadAs.phrase m.isName starred m.reading?_name (skipped_option option h.1.1) hargs
      (by simp [args]) rfl
    simpa [args, argumentsSource, Item.isBracket, Item.source, Item.spoken, m.fill_pieces] using
      hread
  | .other n starred items, h => by
    have hitems := readAs_all items (by simpa [Item.delimited] using h)
    have hm (s : State) : s.meet n.name = s.say [] := by
      simp only [State.meet, n.reading?_name, State.say_nil]
    simpa [Item.isBracket, Item.source, Item.spoken] using hitems.mark n.isName starred hm

/-- Items are read as they are spoken; in an option, unless one is a closing bracket. -/
theorem readAs_all : (is : List Item) → delimitedAll is = true →
    ReadAs (is.all fun i => !i.isBracket) (sourceAll is) (spokenAll is)
  | [], _ => ReadAs.nil
  | i :: is, h => by
    have h : i.delimited = true ∧ delimitedAll is = true := by
      simpa [delimitedAll] using h
    exact (i.readAs h.1).append (readAs_all is h.2)

/-- An option is skipped, if there is one. -/
theorem skipped_option : (o : Option (List Item)) → optionDelimited o = true →
    Skipped (optionSource o)
  | none, _ => ⟨Or.inl rfl, true, fun _ _ _ => rfl⟩
  | some is, h => by
    have h : is.all (fun i => !i.isBracket) = true ∧ delimitedAll is = true := by
      simpa [optionDelimited] using h
    have his := readAs_all is h.2
    rw [h.1] at his
    exact ⟨Or.inr rfl, false, fun s p rest => State.read_option his s p rest⟩

end

/-- **A document is converted to what it is spoken as.** Plain characters stand for themselves, a
tie for a space, escapes and words for their texts and groups for what they hold; a macro is set
around what its arguments are spoken as, and options, comments and the signs around formulas are
left out. -/
theorem toText_source (d : Document) : toText d.source = .ok d.spoken := by
  have hread := readAs_all d.items d.delimited {} [] rfl fun ho => by cases ho
  rw [List.append_nil, State.read_nil] at hread
  have hconvert : convert d.source = .ok d.spoken := by
    change (State.read {} (sourceAll d.items)).bind State.finish = _
    rw [hread]
    simp [Except.bind, State.finish, State.say, State.advance, State.settle, Document.spoken]
  rw [toText, hconvert]
  rfl

/-- A starred heading with an option, around a word. -/
def starredHeading : Document where
  items := [.unary .heading true (some [.char ⟨'x', by decide⟩])
    [.math, .word ⟨("alpha", "alpha"), by decide⟩]]
  delimited := by decide

example : starredHeading.source = "\\section*[x]\x7b$\\alpha\x7b\x7d\x7d".toList := by decide

example : starredHeading.spoken = "\nSection: alpha\n".toList := by decide

end Lector.Latex
