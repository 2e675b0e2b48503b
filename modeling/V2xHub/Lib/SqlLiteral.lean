import V2xHub.Lib.CString

/-!
# SQL string literals

The default lexer of MySQL, as far as it is about literals: a literal ends with a quote that is not doubled, and a
backslash escapes what comes next. Text outside of literals is left as characters; what a lexer makes of it depends on
nothing else.

A statement is put together from its own text and values in quotes, as they are (`Piece.raw`) or with a backslash in front
of every quote (`Piece.escaped`). `safe_iff` says for which values its tokens are the ones that they are put in as.
-/

namespace SqlLiteral

def quote : UInt8 := 39

def backslash : UInt8 := 92

/-- What a backslash and the character after it are in a literal. -/
def escape (c : UInt8) : Str :=
  if c = 48 then [0]
  else if c = 98 then [8]
  else if c = 110 then [10]
  else if c = 114 then [13]
  else if c = 116 then [9]
  else if c = 90 then [26]
  else if c = 37 ∨ c = 95 then [backslash, c]
  else [c]

inductive Token where
  | char (c : UInt8)
  | literal (value : Str)
  | unterminated
deriving DecidableEq

/-- Inside of a literal the value so far is kept. -/
def lex : Option Str → Str → List Token
  | none, [] => []
  | none, c :: cs => if c = quote then lex (some []) cs else .char c :: lex none cs
  | some _, [] => [.unterminated]
  | some v, [c] => if c = quote then [.literal v] else [.unterminated]
  | some v, c :: d :: cs =>
    if c = backslash then lex (some (v ++ escape d)) cs
    else if c = quote then
      if d = quote then lex (some (v ++ [quote])) cs else .literal v :: lex none (d :: cs)
    else lex (some (v ++ [c])) (d :: cs)

/-- Every backslash is followed by a percent sign or an underscore, with which it stands for itself. -/
def Good : Str → Prop
  | [] => True
  | [c] => c ≠ backslash
  | c :: d :: cs => if c = backslash then (d = 37 ∨ d = 95) ∧ Good cs else Good (d :: cs)

instance decidableGood : ∀ s, Decidable (Good s)
  | [] => isTrue trivial
  | [c] => inferInstanceAs (Decidable (c ≠ backslash))
  | c :: d :: cs =>
    have := decidableGood cs
    have := decidableGood (d :: cs)
    inferInstanceAs (Decidable (if c = backslash then (d = 37 ∨ d = 95) ∧ Good cs else Good (d :: cs)))

def Plain (s : Str) : Prop := quote ∉ s ∧ Good s

def Special (c : UInt8) : Prop := c = quote ∨ c = backslash

/-- What follows a literal in a statement. -/
def Continues (rest : Str) : Prop := ∀ c cs, rest = c :: cs → ¬ Special c

variable {c d x y : UInt8} {s v w rest : Str} {t : List Token}

theorem escape_percent (h : d = 37 ∨ d = 95) : escape d = [backslash, d] := by
  rcases h with rfl | rfl
  · rfl
  · rfl

theorem not_special_of_percent (h : d = 37 ∨ d = 95) : ¬ Special d := by
  unfold Special
  rcases h with rfl | rfl
  · decide
  · decide

theorem escape_quote : escape quote = [quote] := rfl

theorem escape_backslash : escape backslash = [backslash] := rfl

/-- Only a backslash is escaped to a backslash, and only a quote to a quote. -/
theorem escape_single (h : ¬ (d = 37 ∨ d = 95)) : ∃ x, escape d = [x] ∧ (Special x → x = d) := by
  have hcontrol : ∀ x ∈ ([0, 8, 10, 13, 9, 26] : List UInt8), ¬ Special x := by
    unfold Special
    decide +kernel
  unfold escape
  split_ifs
  · exact ⟨0, rfl, fun hx => absurd hx (hcontrol 0 (by decide))⟩
  · exact ⟨8, rfl, fun hx => absurd hx (hcontrol 8 (by decide))⟩
  · exact ⟨10, rfl, fun hx => absurd hx (hcontrol 10 (by decide))⟩
  · exact ⟨13, rfl, fun hx => absurd hx (hcontrol 13 (by decide))⟩
  · exact ⟨9, rfl, fun hx => absurd hx (hcontrol 9 (by decide))⟩
  · exact ⟨26, rfl, fun hx => absurd hx (hcontrol 26 (by decide))⟩
  · exact ⟨d, rfl, fun _ => rfl⟩

/-! ### Steps of the lexer -/

theorem lex_one : lex (some v) [c] = if c = quote then [.literal v] else [.unterminated] := rfl

theorem lex_two : lex (some v) (c :: d :: s) =
    if c = backslash then lex (some (v ++ escape d)) s
    else if c = quote then if d = quote then lex (some (v ++ [quote])) s else .literal v :: lex none (d :: s)
    else lex (some (v ++ [c])) (d :: s) := rfl

theorem quote_ne : quote ≠ backslash := by decide

theorem lex_char (h : ¬ Special c) : lex (some v) (c :: s) = lex (some (v ++ [c])) s := by
  obtain ⟨hquote, hbackslash⟩ := not_or.1 h
  cases s with
  | nil => exact lex_one.trans (if_neg hquote)
  | cons d s => rw [lex_two, if_neg hbackslash, if_neg hquote]

theorem lex_backslash : lex (some v) (backslash :: d :: s) = lex (some (v ++ escape d)) s := by
  rw [lex_two, if_pos rfl]

theorem lex_quotes : lex (some v) (quote :: quote :: s) = lex (some (v ++ [quote])) s := by
  rw [lex_two, if_neg quote_ne, if_pos rfl, if_pos rfl]

theorem lex_close (h : ∀ cs, s ≠ quote :: cs) : lex (some v) (quote :: s) = .literal v :: lex none s := by
  cases s with
  | nil => exact lex_one.trans (if_pos rfl)
  | cons d s => rw [lex_two, if_neg quote_ne, if_pos rfl, if_neg fun hd => h s (by rw [hd])]

theorem Continues.close (h : Continues rest) : lex (some v) (quote :: rest) = .literal v :: lex none rest :=
  lex_close fun cs hrest => h quote cs hrest (.inl rfl)

/-- A literal begins with what was read of it. -/
theorem prefix_of_literal (h : lex (some v) s = .literal w :: t) : v <+: w := by
  induction hn : s.length using Nat.strongRecOn generalizing s v with
  | _ n ih =>
    match s with
    | [] => exact nomatch h
    | [c] =>
      rw [lex_one] at h
      split_ifs at h
      · obtain rfl := Token.literal.inj (List.cons.inj h).1
        exact List.prefix_refl v
      · exact nomatch h
    | c :: d :: cs =>
      rw [List.length_cons, List.length_cons] at hn
      rw [lex_two] at h
      split_ifs at h
      · exact (List.prefix_append _ _).trans (ih _ (by omega) h rfl)
      · exact (List.prefix_append _ _).trans (ih _ (by omega) h rfl)
      · obtain rfl := Token.literal.inj (List.cons.inj h).1
        exact List.prefix_refl v
      · exact (List.prefix_append _ _).trans (ih _ (by rw [List.length_cons]; omega) h rfl)

theorem eq_of_literal (h : lex (some (v ++ [x])) s = .literal (v ++ y :: w) :: t) : x = y := by
  obtain ⟨u, hu⟩ := prefix_of_literal h
  rw [List.append_assoc] at hu
  exact (List.cons.inj (List.append_cancel_left hu)).1

theorem second_of_literal (h : lex (some (v ++ [c, d])) s = .literal (v ++ [x] ++ y :: w) :: t) : d = y := by
  obtain ⟨u, hu⟩ := prefix_of_literal h
  simp only [List.append_assoc, List.append_cancel_left_eq, List.cons_append, List.nil_append, List.cons.injEq] at hu
  exact hu.2.1

/-- A literal that ends here is not a longer one. -/
theorem close_ne_longer (hs : ∀ cs, s ≠ quote :: cs) : lex (some v) (quote :: s) ≠ .literal (v ++ y :: w) :: t := by
  rw [lex_close hs]
  intro h
  have hlength := congrArg List.length (Token.literal.inj (List.cons.inj h).1)
  rw [List.length_append, List.length_cons] at hlength
  omega

/-- The first character of a text and what follows it. -/
theorem head_append {P : UInt8 → Prop} (hv : ∀ x ∈ v, P x) : ∃ y w, v ++ c :: s = y :: w ∧ (P c → P y) := by
  cases v with
  | nil => exact ⟨c, s, rfl, id⟩
  | cons y v => exact ⟨y, v ++ c :: s, rfl, fun _ => hv y List.mem_cons_self⟩

/-- The literal that is cut off by what follows it is another one. -/
theorem Continues.not_literal (h : Continues rest) : lex (some v) rest ≠ .literal v :: t := by
  cases rest with
  | nil => exact fun hlex => nomatch hlex
  | cons c rest =>
    rw [lex_char (h c rest rfl)]
    intro hlex
    have hlength := (prefix_of_literal hlex).length_le
    rw [List.length_append, List.length_singleton] at hlength
    omega

theorem Continues.not_special (h : Continues rest) (hy : Special y) : lex (some v) rest ≠ .literal (v ++ y :: w) :: t := by
  cases rest with
  | nil => exact fun hlex => nomatch hlex
  | cons c rest =>
    rw [lex_char (h c rest rfl)]
    intro hlex
    exact h c rest rfl ((eq_of_literal hlex) ▸ hy)

/-! ### Values in quotes -/

/-- `'` is `\'`. -/
def escapeQuotes (s : Str) : Str := s.flatMap fun c => if c = quote then [backslash, quote] else [c]

theorem escapeQuotes_nil : escapeQuotes [] = [] := rfl

theorem escapeQuotes_quote : escapeQuotes (quote :: s) = backslash :: quote :: escapeQuotes s := rfl

theorem escapeQuotes_cons (h : c ≠ quote) : escapeQuotes (c :: s) = c :: escapeQuotes s := by
  rw [escapeQuotes, List.flatMap_cons, if_neg h, List.singleton_append]
  rfl

theorem good_cons (h : c ≠ backslash) : Good (c :: s) ↔ Good s := by
  cases s with
  | nil => exact iff_of_true h trivial
  | cons d s => rw [Good, if_neg h]

theorem good_backslash : Good (backslash :: d :: s) ↔ (d = 37 ∨ d = 95) ∧ Good s := by rw [Good, if_pos rfl]

theorem append_cons_append (v z s : Str) (x : UInt8) : v ++ (x :: z) ++ s = (v ++ [x]) ++ (z ++ s) := by simp

/-- A literal that is behind by special characters does not catch up: `z` was read and is yet to come. -/
theorem raw_behind (hrest : Continues rest) : ∀ (s z v : Str), z ≠ [] → (∀ x ∈ z, Special x) →
    lex (some v) (s ++ quote :: rest) ≠ .literal (v ++ z ++ s) :: t
  | [], z, v, hz, _ => by
    rw [List.nil_append, hrest.close, List.append_nil]
    intro h
    have hv := Token.literal.inj (List.cons.inj h).1
    exact hz (List.self_eq_append_right.1 hv)
  | [a], x :: z, v, _, hspecial => by
    have hx := hspecial x List.mem_cons_self
    rw [List.singleton_append, append_cons_append]
    obtain ⟨y, w, hyw, hy⟩ := head_append (c := a) (s := []) (List.forall_mem_cons.1 hspecial).2
    rw [hyw]
    intro h
    by_cases ha : Special a
    · rcases ha with rfl | rfl
      · rw [lex_quotes] at h
        obtain rfl := eq_of_literal (by simpa using h)
        exact hrest.not_special (hy (.inl rfl)) h
      · rw [lex_backslash, escape_quote] at h
        obtain rfl := eq_of_literal (by simpa using h)
        exact hrest.not_special (hy (.inr rfl)) h
    · rw [lex_char ha] at h
      exact ha (eq_of_literal (by simpa using h) ▸ hx)
  | a :: b :: s, x :: z, v, _, hspecial => by
    have hx := hspecial x List.mem_cons_self
    rw [List.cons_append, List.cons_append, append_cons_append]
    intro h
    have hnext : ∀ y, Special y → lex (some (v ++ [y])) (s ++ quote :: rest) =
        .literal (v ++ [x] ++ (z ++ a :: b :: s)) :: t → Special a → Special b → False := by
      intro y hy h ha hb
      obtain rfl := eq_of_literal (by simpa using h)
      refine raw_behind hrest s (z ++ [a, b]) (v ++ [y]) (by simp) ?_ (by simpa using h)
      intro u hu
      rcases List.mem_append.1 hu with hu | hu
      · exact hspecial u (List.mem_cons_of_mem _ hu)
      · rcases List.mem_pair.1 hu with rfl | rfl
        · exact ha
        · exact hb
    by_cases ha : Special a
    · rcases ha with rfl | rfl
      · by_cases hb : b = quote
        · subst hb
          rw [lex_quotes] at h
          exact hnext quote (.inl rfl) h (.inl rfl) (.inl rfl)
        · rw [List.append_assoc, List.singleton_append] at h
          exact close_ne_longer (fun cs hcs => hb (List.cons.inj hcs).1) h
      · rw [lex_backslash] at h
        by_cases hpercent : b = 37 ∨ b = 95
        · rw [escape_percent hpercent] at h
          obtain ⟨y, w, hyw, hy⟩ := head_append (c := backslash) (s := b :: s) (List.forall_mem_cons.1 hspecial).2
          rw [hyw] at h
          exact not_special_of_percent hpercent (second_of_literal h ▸ hy (.inr rfl))
        · obtain ⟨y, hy, hyb⟩ := escape_single hpercent
          rw [hy] at h
          have hyx : y = x := eq_of_literal (by simpa using h)
          have hyspecial : Special y := hyx ▸ hx
          exact hnext y hyspecial h (.inr rfl) (hyb hyspecial ▸ hyspecial)
    · rw [lex_char ha] at h
      exact ha (eq_of_literal (by simpa using h) ▸ hx)
  | [_], [], _, hz, _ => absurd rfl hz
  | _ :: _ :: _, [], _, hz, _ => absurd rfl hz

/-- The same for a value with its quotes escaped, where only backslashes can be behind. -/
theorem escaped_behind (hrest : Continues rest) : ∀ (s z v : Str), z ≠ [] → (∀ x ∈ z, x = backslash) →
    lex (some v) (escapeQuotes s ++ quote :: rest) ≠ .literal (v ++ z ++ s) :: t
  | [], z, v, hz, _ => by
    rw [escapeQuotes_nil, List.nil_append, hrest.close, List.append_nil]
    intro h
    exact hz (List.self_eq_append_right.1 (Token.literal.inj (List.cons.inj h).1))
  | a :: s, x :: z, v, _, hz => by
    obtain rfl := hz x List.mem_cons_self
    rw [append_cons_append]
    intro h
    by_cases ha : a = quote
    · subst ha
      rw [escapeQuotes_quote, List.cons_append, List.cons_append, lex_backslash, escape_quote] at h
      exact quote_ne (eq_of_literal (by simpa using h))
    · rw [escapeQuotes_cons ha, List.cons_append] at h
      by_cases hb : a = backslash
      · subst hb
        match s with
        | [] =>
          rw [escapeQuotes_nil, List.nil_append, lex_backslash, escape_quote] at h
          exact quote_ne (eq_of_literal (by simpa using h))
        | b :: s =>
          by_cases hquote : b = quote
          · subst hquote
            rw [escapeQuotes_quote, List.cons_append, List.cons_append, lex_backslash, escape_backslash] at h
            -- the quote of the value is now without its backslash
            obtain ⟨y, w, hyw, hy⟩ := head_append (c := backslash) (s := quote :: s) (List.forall_mem_cons.1 hz).2
            rw [hyw] at h
            cases htext : escapeQuotes s ++ quote :: rest with
            | nil => exact absurd htext (by simp)
            | cons c cs =>
              rw [htext] at h
              by_cases hc : c = quote
              · subst hc
                rw [lex_quotes] at h
                exact quote_ne ((eq_of_literal (v := v ++ [backslash]) (by simpa using h)).trans (hy rfl))
              · exact close_ne_longer (fun cs' hcs => hc (List.cons.inj hcs).1) h
          · rw [escapeQuotes_cons hquote, List.cons_append, lex_backslash] at h
            by_cases hpercent : b = 37 ∨ b = 95
            · rw [escape_percent hpercent] at h
              obtain ⟨y, w, hyw, hy⟩ := head_append (c := backslash) (s := b :: s) (List.forall_mem_cons.1 hz).2
              rw [hyw] at h
              exact not_special_of_percent hpercent (.inr ((second_of_literal h).trans (hy rfl)))
            · obtain ⟨y, hy, hyb⟩ := escape_single hpercent
              rw [hy] at h
              have hyx : y = backslash := eq_of_literal (by simpa using h)
              subst hyx
              obtain rfl := hyb (.inr rfl)
              refine escaped_behind hrest s (z ++ [backslash, backslash]) (v ++ [backslash]) (by simp) ?_ (by simpa using h)
              intro u hu
              rcases List.mem_append.1 hu with hu | hu
              · exact hz u (List.mem_cons_of_mem _ hu)
              · simpa using hu
      · rw [lex_char (not_or.2 ⟨ha, hb⟩)] at h
        exact hb (eq_of_literal (by simpa using h))
  | _ :: _, [], _, hz, _ => absurd rfl hz

/-- A literal has the value in its quotes exactly if the value is plain. -/
theorem raw_iff (hrest : Continues rest) : ∀ s v : Str, (Plain s →
    lex (some v) (s ++ quote :: rest) = .literal (v ++ s) :: lex none rest) ∧
    ((∃ t, lex (some v) (s ++ quote :: rest) = .literal (v ++ s) :: t) → Plain s)
  | [], v => by
    rw [List.nil_append, hrest.close, List.append_nil]
    exact ⟨fun _ => rfl, fun _ => ⟨List.not_mem_nil, trivial⟩⟩
  | [c], v => by
    rw [List.singleton_append]
    by_cases hc : Special c
    · refine ⟨fun h => ?_, fun ⟨t, h⟩ => ?_⟩
      · rcases hc with rfl | rfl
        · exact absurd List.mem_cons_self h.1
        · exact absurd rfl h.2
      · rcases hc with rfl | rfl
        · rw [lex_quotes] at h
          exact absurd h hrest.not_literal
        · rw [lex_backslash, escape_quote] at h
          exact absurd (eq_of_literal h) quote_ne
    · rw [lex_char hc, hrest.close]
      obtain ⟨hquote, hbackslash⟩ := not_or.1 hc
      exact ⟨fun _ => rfl, fun _ => ⟨by simpa using Ne.symm hquote, hbackslash⟩⟩
  | c :: d :: s, v => by
    have ih := raw_iff hrest (d :: s) (v ++ [c])
    rw [List.cons_append, List.cons_append]
    by_cases hquote : c = quote
    · subst hquote
      refine ⟨fun h => absurd List.mem_cons_self h.1, fun ⟨t, h⟩ => ?_⟩
      by_cases hd : d = quote
      · subst hd
        rw [lex_quotes] at h
        exact absurd (by simpa using h) (raw_behind hrest s [quote] (v ++ [quote]) (by simp) (by simp [Special]) (t := t))
      · exact absurd h (close_ne_longer fun cs hcs => hd (List.cons.inj hcs).1)
    · by_cases hbackslash : c = backslash
      · subst hbackslash
        rw [lex_backslash, Plain, good_backslash]
        by_cases hpercent : d = 37 ∨ d = 95
        · have ih := raw_iff hrest s (v ++ [backslash, d])
          have hd : d ≠ quote := (not_or.1 (not_special_of_percent hpercent)).1
          rw [escape_percent hpercent]
          have hmem : quote ∉ backslash :: d :: s ↔ quote ∉ s := by simp [quote_ne, Ne.symm hd]
          rw [and_iff_right hpercent, hmem]
          simpa [Plain] using ih
        · refine ⟨fun h => absurd h.2.1 hpercent, fun ⟨t, h⟩ => ?_⟩
          obtain ⟨y, hy, hyd⟩ := escape_single hpercent
          rw [hy] at h
          have hyb : y = backslash := eq_of_literal h
          subst hyb
          obtain rfl := hyd (.inr rfl)
          exact absurd (by simpa using h)
            (raw_behind hrest s [backslash] (v ++ [backslash]) (by simp) (by simp [Special]) (t := t))
      · have hmem : quote ∉ c :: d :: s ↔ quote ∉ d :: s := by simp [Ne.symm hquote]
        rw [lex_char (not_or.2 ⟨hquote, hbackslash⟩), Plain, good_cons hbackslash, hmem]
        simpa [Plain] using ih

/-- A literal with the quotes of its value escaped has the value exactly if its backslashes stand for themselves. -/
theorem escaped_iff (hrest : Continues rest) : ∀ s v : Str, (Good s →
    lex (some v) (escapeQuotes s ++ quote :: rest) = .literal (v ++ s) :: lex none rest) ∧
    ((∃ t, lex (some v) (escapeQuotes s ++ quote :: rest) = .literal (v ++ s) :: t) → Good s)
  | [], v => by
    rw [escapeQuotes_nil, List.nil_append, hrest.close, List.append_nil]
    exact ⟨fun _ => rfl, fun _ => trivial⟩
  | [c], v => by
    by_cases hquote : c = quote
    · subst hquote
      rw [escapeQuotes_quote, escapeQuotes_nil, List.cons_append, List.cons_append, lex_backslash, escape_quote,
        List.nil_append, hrest.close]
      exact ⟨fun _ => rfl, fun _ => quote_ne⟩
    · rw [escapeQuotes_cons hquote, escapeQuotes_nil, List.singleton_append]
      by_cases hbackslash : c = backslash
      · subst hbackslash
        refine ⟨fun h => absurd rfl h, fun ⟨t, h⟩ => ?_⟩
        rw [lex_backslash, escape_quote] at h
        exact absurd (eq_of_literal h) quote_ne
      · rw [lex_char (not_or.2 ⟨hquote, hbackslash⟩), hrest.close]
        exact ⟨fun _ => rfl, fun _ => hbackslash⟩
  | c :: d :: s, v => by
    have ih := escaped_iff hrest (d :: s) (v ++ [c])
    by_cases hquote : c = quote
    · subst hquote
      rw [escapeQuotes_quote, List.cons_append, List.cons_append, lex_backslash, escape_quote, good_cons quote_ne]
      simpa using ih
    · rw [escapeQuotes_cons hquote, List.cons_append]
      by_cases hbackslash : c = backslash
      · subst hbackslash
        rw [good_backslash]
        by_cases hd : d = quote
        · subst hd
          refine ⟨fun h => absurd h.1 (by decide), fun ⟨t, h⟩ => ?_⟩
          rw [escapeQuotes_quote, List.cons_append, List.cons_append, lex_backslash, escape_backslash] at h
          -- the quote of the value ends the literal, or it and the one behind it are one
          cases s with
          | nil =>
            rw [escapeQuotes_nil, List.nil_append, lex_quotes] at h
            exact absurd (by simpa using h) (hrest.not_literal (v := v ++ [backslash, quote]) (t := t))
          | cons e s =>
            have hclose : ∀ cs, escapeQuotes (e :: s) ++ quote :: rest ≠ quote :: cs := by
              intro cs hcs
              by_cases he : e = quote
              · subst he
                rw [escapeQuotes_quote] at hcs
                exact quote_ne (List.cons.inj hcs).1.symm
              · rw [escapeQuotes_cons he] at hcs
                exact he (List.cons.inj hcs).1
            rw [List.append_cons v backslash (quote :: _)] at h
            exact absurd h (close_ne_longer hclose)
        · rw [escapeQuotes_cons hd, List.cons_append, lex_backslash]
          by_cases hpercent : d = 37 ∨ d = 95
          · have ih := escaped_iff hrest s (v ++ [backslash, d])
            rw [escape_percent hpercent, and_iff_right hpercent]
            simpa using ih
          · refine ⟨fun h => absurd h.1 hpercent, fun ⟨t, h⟩ => ?_⟩
            obtain ⟨y, hy, hyd⟩ := escape_single hpercent
            rw [hy] at h
            have hyb : y = backslash := eq_of_literal h
            subst hyb
            obtain rfl := hyd (.inr rfl)
            exact absurd (by simpa using h)
              (escaped_behind hrest s [backslash] (v ++ [backslash]) (by simp) (by simp) (t := t))
      · rw [lex_char (not_or.2 ⟨hquote, hbackslash⟩), good_cons hbackslash]
        simpa using ih

/-! ### Statements -/

inductive Piece where
  /-- The statement's own text. -/
  | sql (text : Str)
  | raw (value : Str)
  | escaped (value : Str)

namespace Piece

def text : Piece → Str
  | sql text => text
  | raw value => quote :: (value ++ [quote])
  | escaped value => quote :: (escapeQuotes value ++ [quote])

/-- The tokens that the piece is put in as. -/
def tokens : Piece → List Token
  | sql text => text.map .char
  | raw value => [.literal value]
  | escaped value => [.literal value]

def value : Piece → Option Str
  | sql _ => none
  | raw value => some value
  | escaped value => some value

/-- The piece with a plain letter as its value. -/
def letter : Piece → Piece
  | sql text => sql text
  | raw _ => raw [97]
  | escaped _ => escaped [97]

def Ok : Piece → Prop
  | sql _ => True
  | raw value => Plain value
  | escaped value => Good value

end Piece

def render (ps : List Piece) : Str := ps.flatMap Piece.text

/-- The text behind a value does not begin with a quote or a backslash. -/
def Follows : List Piece → Prop
  | [] => True
  | .sql (c :: _) :: _ => ¬ Special c
  | _ => False

def WellFormed : List Piece → Prop
  | [] => True
  | .sql text :: ps => quote ∉ text ∧ WellFormed ps
  | _ :: ps => Follows ps ∧ WellFormed ps

/-- The token without its value. -/
def Token.shape : Token → Token
  | .literal _ => .literal []
  | t => t

def Token.value : Token → Option Str
  | .literal value => some value
  | _ => none

/-- The tokens have the structure that plain letters give, and the literals have the values. -/
def Safe (ps : List Piece) : Prop :=
  (lex none (render ps)).map Token.shape = (lex none (render (ps.map Piece.letter))).map Token.shape ∧
    (lex none (render ps)).filterMap Token.value = ps.filterMap Piece.value

variable {p : Piece} {ps qs : List Piece}

theorem render_cons : render (p :: ps) = p.text ++ render ps := List.flatMap_cons

theorem Follows.continues (h : Follows ps) : Continues (render ps) := by
  match ps with
  | [] => exact fun c cs hcs => nomatch hcs
  | .sql [] :: _ => exact absurd h id
  | .sql (c :: text) :: ps =>
    intro d cs hcs
    rw [render_cons] at hcs
    obtain ⟨rfl, -⟩ := List.cons.inj hcs
    exact h
  | .raw _ :: _ => exact absurd h id
  | .escaped _ :: _ => exact absurd h id

theorem lex_sql {text : Str} (h : quote ∉ text) : lex none (text ++ s) = text.map .char ++ lex none s := by
  induction text with
  | nil => rfl
  | cons c text ih =>
    obtain ⟨hc, htext⟩ := List.ne_and_not_mem_of_not_mem_cons h
    rw [List.cons_append, List.map_cons, List.cons_append, ← ih htext]
    exact if_neg (Ne.symm hc)

theorem lex_render (h : WellFormed ps) : lex none (render ps) = ps.flatMap Piece.tokens ↔ ∀ p ∈ ps, p.Ok := by
  induction ps with
  | nil => exact iff_of_true rfl fun p hp => absurd hp List.not_mem_nil
  | cons p ps ih =>
    rw [render_cons, List.flatMap_cons, List.forall_mem_cons]
    cases p with
    | sql text =>
      rw [Piece.text, Piece.tokens, lex_sql h.1, List.append_cancel_left_eq, ih h.2]
      exact (and_iff_right trivial).symm
    | raw value =>
      obtain ⟨hsafe, hplain⟩ := raw_iff h.1.continues value []
      rw [Piece.text, Piece.tokens, List.cons_append, List.append_assoc, List.singleton_append, ← ih h.2]
      change lex (some []) (value ++ quote :: render ps) = _ ↔ _
      constructor
      · intro hlex
        have hvalue := hplain ⟨_, hlex⟩
        rw [hsafe hvalue] at hlex
        exact ⟨hvalue, (List.cons.inj hlex).2⟩
      · rintro ⟨hvalue, hrest⟩
        rw [hsafe hvalue, hrest]
        rfl
    | escaped value =>
      obtain ⟨hsafe, hgood⟩ := escaped_iff h.1.continues value []
      rw [Piece.text, Piece.tokens, List.cons_append, List.append_assoc, List.singleton_append, ← ih h.2]
      change lex (some []) (escapeQuotes value ++ quote :: render ps) = _ ↔ _
      constructor
      · intro hlex
        have hvalue := hgood ⟨_, hlex⟩
        rw [hsafe hvalue] at hlex
        exact ⟨hvalue, (List.cons.inj hlex).2⟩
      · rintro ⟨hvalue, hrest⟩
        rw [hsafe hvalue, hrest]
        rfl

/-- Tokens are known by their structure and their values. -/
theorem tokens_ext : ∀ {t u : List Token}, t.map Token.shape = u.map Token.shape →
    t.filterMap Token.value = u.filterMap Token.value → t = u
  | [], [], _, _ => rfl
  | [], _ :: _, h, _ => nomatch h
  | _ :: _, [], h, _ => nomatch h
  | a :: t, b :: u, h, hvalue => by
    obtain ⟨hab, htu⟩ := List.cons.inj h
    cases a with
    | literal v =>
      cases b with
      | literal w =>
        obtain ⟨rfl, hrest⟩ := List.cons.inj hvalue
        rw [tokens_ext htu hrest]
      | char c => exact nomatch hab
      | unterminated => exact nomatch hab
    | char c =>
      cases b with
      | literal w => exact nomatch hab
      | char d =>
        obtain rfl := Token.char.inj hab
        rw [tokens_ext htu hvalue]
      | unterminated => exact nomatch hab
    | unterminated =>
      cases b with
      | literal w => exact nomatch hab
      | char d => exact nomatch hab
      | unterminated => rw [tokens_ext htu hvalue]

theorem value_tokens : (ps.flatMap Piece.tokens).filterMap Token.value = ps.filterMap Piece.value := by
  induction ps with
  | nil => rfl
  | cons p ps ih =>
    rw [List.flatMap_cons, List.filterMap_append, ih]
    cases p with
    | sql text =>
      have hnone : (text.map Token.char).filterMap Token.value = [] := by
        rw [List.filterMap_eq_nil_iff]
        intro t ht
        obtain ⟨c, -, rfl⟩ := List.mem_map.1 ht
        rfl
      rw [Piece.tokens, hnone]
      rfl
    | raw value => rfl
    | escaped value => rfl

theorem shape_tokens : (ps.flatMap Piece.tokens).map Token.shape =
    ((ps.map Piece.letter).flatMap Piece.tokens).map Token.shape := by
  induction ps with
  | nil => rfl
  | cons p ps ih =>
    rw [List.map_cons, List.flatMap_cons, List.flatMap_cons, List.map_append, List.map_append, ih]
    cases p with
    | sql text => rfl
    | raw value => rfl
    | escaped value => rfl

theorem ok_letter : ∀ p ∈ ps.map Piece.letter, p.Ok := by
  intro p hp
  obtain ⟨p, -, rfl⟩ := List.mem_map.1 hp
  cases p with
  | sql text => trivial
  | raw value => exact ⟨by decide, by change (97 : UInt8) ≠ backslash; decide⟩
  | escaped value => change (97 : UInt8) ≠ backslash; decide

theorem wellFormed_letter (h : WellFormed ps) : WellFormed (ps.map Piece.letter) := by
  have hfollows : ∀ {ps : List Piece}, Follows ps → Follows (ps.map Piece.letter) := by
    intro ps h
    match ps with
    | [] => trivial
    | .sql [] :: _ => exact absurd h id
    | .sql (c :: text) :: ps => exact h
    | .raw _ :: _ => exact absurd h id
    | .escaped _ :: _ => exact absurd h id
  induction ps with
  | nil => trivial
  | cons p ps ih =>
    cases p with
    | sql text => exact ⟨h.1, ih h.2⟩
    | raw value => exact ⟨hfollows h.1, ih h.2⟩
    | escaped value => exact ⟨hfollows h.1, ih h.2⟩

theorem safe_iff (h : WellFormed ps) : Safe ps ↔ ∀ p ∈ ps, p.Ok := by
  have hletter := (lex_render (wellFormed_letter h)).2 ok_letter
  rw [← lex_render h, Safe, hletter, ← shape_tokens, ← value_tokens]
  constructor
  · rintro ⟨hshape, hvalue⟩
    exact tokens_ext hshape hvalue
  · intro hlex
    rw [hlex]
    exact ⟨rfl, rfl⟩

theorem Follows.append (h : Follows ps) (hne : ps ≠ []) : Follows (ps ++ qs) := by
  match ps with
  | [] => exact absurd rfl hne
  | .sql [] :: _ => exact absurd h id
  | .sql (c :: text) :: ps => exact h
  | .raw _ :: _ => exact absurd h id
  | .escaped _ :: _ => exact absurd h id

theorem WellFormed.append (h : WellFormed ps) (hq : WellFormed qs) (hfollows : Follows qs) : WellFormed (ps ++ qs) := by
  have hnext : ∀ {ps : List Piece}, Follows ps → Follows (ps ++ qs) := by
    intro ps h
    cases ps with
    | nil => exact hfollows
    | cons p ps => exact h.append (List.cons_ne_nil p ps)
  induction ps with
  | nil => exact hq
  | cons p ps ih =>
    cases p with
    | sql text => exact ⟨h.1, ih h.2⟩
    | raw value => exact ⟨hnext h.1, ih h.2⟩
    | escaped value => exact ⟨hnext h.1, ih h.2⟩

theorem good_of_not_mem (h : backslash ∉ s) : Good s := by
  induction s with
  | nil => trivial
  | cons c s ih =>
    obtain ⟨hc, hs⟩ := List.ne_and_not_mem_of_not_mem_cons h
    exact (good_cons (Ne.symm hc)).2 (ih hs)

end SqlLiteral
