import Lector.Latex.Convert

/-!
# Tokens read back from what is written

A token that is written in front of a text is read back as itself, unless the text could be taken
for a part of it: a macro named by letters goes on as long as letters follow, and takes a star that
follows.

## Main definitions

* `specials`: the characters with a meaning of their own
* `Token.Before`: a token can stand in front of a text

## Main results

* `tokens_source_append`: a token that is written is the token that is read
* `exists_source_append`: every text starts with its first token
* `Token.induction`: induction over a text, token by token
-/

namespace Lector.Latex

/-- The characters with a meaning of their own. -/
def specials : List Char := ['\\', '\x7b', '\x7d', '%', '$', '~']

/-- A token can stand in front of a text, which is not taken for a part of it. -/
def Token.Before (rest : Text) : Token → Prop
  | char c => c ∉ specials
  | comment t ended => '\n' ∉ t ∧ (ended = true ∨ rest = [])
  | word name starred =>
    name ≠ [] ∧ (∀ c ∈ name, c.isAlpha = true) ∧
      (starred = true ∨ ∀ c, rest.head? = some c → c.isAlpha = false ∧ c ≠ '*')
  | symbol c => c.isAlpha = false
  | lone => rest = []
  | _ => True

theorem Token.before_char {c : Char} (h : c ∉ specials) (rest : Text) : (char c).Before rest := h

theorem Token.before_opening (rest : Text) : opening.Before rest := trivial

theorem Token.before_closing (rest : Text) : closing.Before rest := trivial

/-- A token that is found at the start of a text is followed by the tokens of the rest. -/
theorem tokens_of_firstToken {k : Token} {c : Char} {cs rest : Text} (hs : k.source = c :: cs)
    (hf : firstToken c (cs ++ rest) = k) : tokens (k.source ++ rest) = k :: tokens rest := by
  rw [hs, List.cons_append, tokens_cons, hf, hs, ← List.cons_append, List.drop_left]

theorem firstToken_char {c : Char} (h : c ∉ specials) (rest : Text) :
    firstToken c rest = .char c := by
  simp only [specials, List.mem_cons, List.not_mem_nil, or_false, not_or] at h
  simp [firstToken, h]

/-- A run of characters with `p` ends where a text starts without one. -/
theorem takeWhile_dropWhile_append {p : Char → Bool} {t : Text} (ht : ∀ c ∈ t, p c = true)
    (rest : Text) (hr : ∀ c, rest.head? = some c → p c = false) :
    (t ++ rest).takeWhile p = t ∧ (t ++ rest).dropWhile p = rest := by
  rw [List.takeWhile_append_of_pos ht, List.dropWhile_append_of_pos ht]
  cases rest with
  | nil => simp
  | cons c rest => simp [hr c rfl]

theorem firstToken_comment {t rest : Text} {ended : Bool} (h : '\n' ∉ t)
    (he : ended = true ∨ rest = []) :
    firstToken '%' ((t ++ if ended then ['\n'] else []) ++ rest) = .comment t ended := by
  have ht : ∀ c ∈ t, decide (c ≠ '\n') = true := by
    intro c hc
    exact decide_eq_true fun e => h (e ▸ hc)
  have hfirst (u : Text) : firstToken '%' u =
      .comment (u.takeWhile (· ≠ '\n')) ((u.dropWhile (· ≠ '\n')).head? == some '\n') := rfl
  -- What follows only matters when the line does not end, and then nothing follows.
  cases ended with
  | true =>
    obtain ⟨htake, hdrop⟩ := takeWhile_dropWhile_append ht ('\n' :: rest) (by simp)
    simp only [if_true, List.append_assoc, List.singleton_append]
    rw [hfirst, htake, hdrop]
    rfl
  | false =>
    obtain rfl : rest = [] := by simpa using he
    obtain ⟨htake, hdrop⟩ := takeWhile_dropWhile_append ht [] (by simp)
    simp only [Bool.false_eq_true, if_false, List.append_assoc]
    rw [List.append_nil, hfirst, htake, hdrop]
    rfl

theorem firstToken_word {name rest : Text} {starred : Bool}
    (h : (Token.word name starred).Before rest) :
    firstToken '\\' ((name ++ if starred then ['*'] else []) ++ rest) = .word name starred := by
  obtain ⟨hne, hn, hr⟩ := h
  have hfirst (c : Char) (u : Text) (hc : c.isAlpha = true) : firstToken '\\' (c :: u) =
      .word ((c :: u).takeWhile Char.isAlpha)
        (((c :: u).dropWhile Char.isAlpha).head? == some '*') := by
    simp [firstToken, hc]
  obtain ⟨c, cs, rfl⟩ := List.exists_cons_of_ne_nil hne
  have hc : c.isAlpha = true := hn c (by simp)
  cases starred with
  | true =>
    obtain ⟨htake, hdrop⟩ := takeWhile_dropWhile_append hn ('*' :: rest) (by simp)
    simp only [if_true, List.append_assoc, List.cons_append, List.nil_append] at htake hdrop ⊢
    rw [hfirst c _ hc, htake, hdrop]
    rfl
  | false =>
    have hr : ∀ c, rest.head? = some c → c.isAlpha = false ∧ c ≠ '*' := by simpa using hr
    obtain ⟨htake, hdrop⟩ := takeWhile_dropWhile_append hn rest fun c h => (hr c h).1
    simp only [Bool.false_eq_true, if_false, List.append_nil, List.cons_append] at htake hdrop ⊢
    have hstar : (rest.head? == some '*') = false := by
      simpa using fun e => (hr '*' e).2 rfl
    rw [hfirst c _ hc, htake, hdrop, hstar]

/-- **A token that is written is the token that is read**, in front of every text that is not taken
for a part of it. -/
theorem tokens_source_append {k : Token} {rest : Text} (h : k.Before rest) :
    tokens (k.source ++ rest) = k :: tokens rest := by
  cases k with
  | char c => exact tokens_of_firstToken rfl (firstToken_char h _)
  | tie => exact tokens_of_firstToken rfl rfl
  | math => exact tokens_of_firstToken rfl rfl
  | opening => exact tokens_of_firstToken rfl rfl
  | closing => exact tokens_of_firstToken rfl rfl
  | comment t ended => exact tokens_of_firstToken rfl (firstToken_comment h.1 h.2)
  | word name starred => exact tokens_of_firstToken rfl (firstToken_word h)
  | symbol c =>
    have hc : c.isAlpha = false := h
    exact tokens_of_firstToken rfl (by simp [firstToken, hc])
  | lone =>
    obtain rfl : rest = [] := h
    exact tokens_of_firstToken rfl rfl

/-- The longest run of characters with `p` ends where a text ends or goes on without one. -/
theorem takeWhile_run (p : Char → Bool) (t : Text) :
    (∀ c ∈ t.takeWhile p, p c = true) ∧
      (t.dropWhile p = [] ∨ ∃ c rest, t.dropWhile p = c :: rest ∧ p c = false) := by
  refine ⟨List.all_eq_true.mp List.all_takeWhile, ?_⟩
  cases hd : t.dropWhile p with
  | nil => exact Or.inl rfl
  | cons c rest =>
    have hc := List.head?_dropWhile_not p t
    rw [hd] at hc
    exact Or.inr ⟨c, rest, rfl, by simpa using hc⟩

theorem exists_comment_append (t : Text) :
    ∃ rest, (firstToken '%' t).source ++ rest = '%' :: t ∧ (firstToken '%' t).Before rest := by
  have hfirst : firstToken '%' t =
      .comment (t.takeWhile (· ≠ '\n')) ((t.dropWhile (· ≠ '\n')).head? == some '\n') := rfl
  have htext : t.takeWhile (· ≠ '\n') ++ t.dropWhile (· ≠ '\n') = t :=
    List.takeWhile_append_dropWhile
  obtain ⟨hrun, hend⟩ := takeWhile_run (· ≠ '\n') t
  have hline : '\n' ∉ t.takeWhile (· ≠ '\n') := fun h => by simpa using hrun _ h
  rw [hfirst]
  generalize t.takeWhile (· ≠ '\n') = line at htext hline ⊢
  rcases hend with hd | ⟨c, rest, hd, hc⟩
  · rw [hd] at htext ⊢
    refine ⟨[], ?_, hline, Or.inr rfl⟩
    rw [← htext]
    simp [Token.source]
  · obtain rfl : c = '\n' := by simpa using hc
    rw [hd] at htext ⊢
    refine ⟨rest, ?_, hline, Or.inl rfl⟩
    rw [← htext]
    simp [Token.source]

theorem exists_macro_append (t : Text) :
    ∃ rest, (firstToken '\\' t).source ++ rest = '\\' :: t ∧ (firstToken '\\' t).Before rest := by
  cases t with
  | nil => exact ⟨[], rfl, rfl⟩
  | cons d t =>
    by_cases hd : d.isAlpha = true
    case neg =>
      have hfirst : firstToken '\\' (d :: t) = .symbol d := by simp [firstToken, hd]
      rw [hfirst]
      exact ⟨t, rfl, eq_false_of_ne_true hd⟩
    have hfirst : firstToken '\\' (d :: t) = .word ((d :: t).takeWhile Char.isAlpha)
        (((d :: t).dropWhile Char.isAlpha).head? == some '*') := by
      simp [firstToken, hd]
    have htext : (d :: t).takeWhile Char.isAlpha ++ (d :: t).dropWhile Char.isAlpha = d :: t :=
      List.takeWhile_append_dropWhile
    have hne : (d :: t).takeWhile Char.isAlpha ≠ [] := by simp [hd]
    obtain ⟨hrun, hend⟩ := takeWhile_run Char.isAlpha (d :: t)
    rw [hfirst]
    generalize (d :: t).takeWhile Char.isAlpha = name at htext hne hrun ⊢
    rcases hend with hd | ⟨c, rest, hd, hc⟩
    · rw [hd] at htext ⊢
      refine ⟨[], ?_, hne, hrun, Or.inr fun c hc => by cases hc⟩
      rw [← htext]
      simp [Token.source]
    · rw [hd] at htext ⊢
      by_cases hstar : c = '*'
      · subst hstar
        refine ⟨rest, ?_, hne, hrun, Or.inl rfl⟩
        rw [← htext]
        simp [Token.source]
      · refine ⟨c :: rest, ?_, hne, hrun, Or.inr fun c' hc' => ?_⟩
        · rw [← htext]
          simp [Token.source, hstar]
        · obtain rfl : c = c' := by simpa using hc'
          exact ⟨hc, hstar⟩

/-- **Every text starts with its first token**, and what follows is not taken for a part of it. -/
theorem exists_source_append (c : Char) (t : Text) :
    ∃ rest, (firstToken c t).source ++ rest = c :: t ∧ (firstToken c t).Before rest := by
  by_cases hspecial : c ∈ specials
  case neg =>
    rw [firstToken_char hspecial]
    exact ⟨t, rfl, hspecial⟩
  simp only [specials, List.mem_cons, List.not_mem_nil, or_false] at hspecial
  rcases hspecial with rfl | rfl | rfl | rfl | rfl | rfl
  · exact exists_macro_append t
  · exact ⟨t, rfl, trivial⟩
  · exact ⟨t, rfl, trivial⟩
  · exact exists_comment_append t
  · exact ⟨t, rfl, trivial⟩
  · exact ⟨t, rfl, trivial⟩

/-- Texts can be gone over token by token. -/
theorem Token.induction {motive : Text → Prop} (nil : motive [])
    (token : ∀ (k : Token) (rest : Text), k.Before rest → motive rest → motive (k.source ++ rest)) :
    (t : Text) → motive t
  | [] => nil
  | c :: t => by
    obtain ⟨rest, hs, hb⟩ := exists_source_append c t
    have hlen : rest.length < (c :: t).length := by
      have := firstToken_source_length_pos c t
      rw [← hs, List.length_append]
      omega
    rw [← hs]
    exact token _ rest hb (Token.induction nil token rest)
termination_by t => t.length
decreasing_by exact hlen

end Lector.Latex
