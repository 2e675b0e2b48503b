import Mathlib.Data.Bool.AllAny
import V2xHub.CommandPlugin.Accounts

/-!
# Logins

`user_accounts` says that in all states of a run every login and every executed command is as it should be if and only if every
login with the password last set for the name finds its digest in the table. A password that a command has set is there as
it is, and is no digest; so no login with such a password succeeds.
-/

namespace V2xHub.CommandPlugin
open TmxCtl AuthorizationLevels

variable {db : Server} {installation : Installation db} {s t : State} {h : History} {e : Event} {es : List Event}
  {users users' : List Row} {session : Session} {r : Request} {row row' : Row} {rows : List Row} {u p x : Str}
  {response : Option Response} {Q : List Str} {i : Nat} {effect : Effect}

/-! ### The login -/

theorem findUser_concat :
    findUser u (rows ++ [row]) = if row.username = u then some row else findUser u rows := by
  rw [findUser, List.foldl_concat]
  rfl

theorem findUser_eq_some (hfind : findUser u rows = some row) : row ∈ rows ∧ row.username = u := by
  induction rows using List.reverseRecOn with
  | nil => exact nomatch hfind
  | append_singleton rows row' ih =>
    rw [findUser_concat] at hfind
    split_ifs at hfind with hname
    · obtain rfl := Option.some.inj hfind
      exact ⟨List.mem_append_right _ (List.mem_singleton_self _), hname⟩
    · exact ⟨List.mem_append_left _ (ih hfind).1, (ih hfind).2⟩

theorem findUser_eq_none (hfind : findUser u rows = none) : ∀ row ∈ rows, row.username ≠ u := by
  induction rows using List.reverseRecOn with
  | nil => exact fun row hrow => absurd hrow List.not_mem_nil
  | append_singleton rows row' ih =>
    rw [findUser_concat] at hfind
    split_ifs at hfind with hname
    exact List.forall_mem_append.2 ⟨ih hfind, List.forall_mem_singleton.2 hname⟩

theorem mem_user_info (hinfo : user_info db users u = some rows) (hname : row.username = u) :
    row ∈ rows ↔ row ∈ users := by
  rw [user_info] at hinfo
  split_ifs at hinfo
  obtain rfl := Option.some.inj hinfo
  rw [List.mem_filter, hname]
  exact and_iff_left (decide_eq_true rfl)

theorem mem_hashed_info : x ∈ (hashed_info db users p).getD [] ↔
    p ≠ [] ∧ ∃ row ∈ users, db.Same row.password (db.SHA2 p) ∧ row.password = x := by
  rw [hashed_info]
  split_ifs with hp
  · simp [hp]
  · simp [hp, and_assoc]

/-- The row that a login finds. -/
def Finds (db : Server) (users : List Row) (r : Request) (row : Row) : Prop :=
  ∃ u p, r.arg "user" = some u ∧ r.arg "password" = some p ∧ row ∈ users ∧ row.username = u ∧ u ≠ [] ∧ p ≠ [] ∧
    db.Same row.password (db.SHA2 p)

theorem login_cases (db : Server) (users : List Row) (session : Session) (r : Request) : (∃ row, Finds db users r row ∧
      login db users session r = (⟨true, row.accessLevel⟩, some ⟨.login, true, ""⟩)) ∨
    (UniqueNames db users → ∀ row, ¬ Finds db users r row) ∧ (login db users session r).1 = session ∧
      ∀ x ∈ (login db users session r).2, x.success = false := by
  have hnames : ∀ {u p : Str}, r.arg "user" = some u → r.arg "password" = some p → ∀ {row}, Finds db users r row →
      row ∈ users ∧ row.username = u ∧ u ≠ [] ∧ p ≠ [] ∧ db.Same row.password (db.SHA2 p) := by
    rintro u p hu hp row ⟨u', p', hu', hp', hfinds⟩
    obtain rfl := Option.some.inj (hu.symm.trans hu')
    obtain rfl := Option.some.inj (hp.symm.trans hp')
    exact hfinds
  rw [login]
  split
  · next u p hu hp =>
    split
    · next hinfo =>
      refine .inr ⟨fun _ row hfinds => ?_, rfl, fun x hx => (Option.mem_some_iff.1 hx) ▸ rfl⟩
      rw [user_info, if_neg (hnames hu hp hfinds).2.2.1] at hinfo
      exact nomatch hinfo
    · next hinfo =>
      refine .inr ⟨fun _ row hfinds => ?_, rfl, fun x hx => (Option.mem_some_iff.1 hx) ▸ rfl⟩
      obtain ⟨hrow, hname, -⟩ := hnames hu hp hfinds
      exact absurd ((mem_user_info hinfo hname).2 hrow) List.not_mem_nil
    · next rows _ hinfo =>
      have hu' : u ≠ [] := by
        rintro rfl
        rw [user_info, if_pos rfl] at hinfo
        exact nomatch hinfo
      dsimp only
      split_ifs with hmem
      all_goals rw [mem_hashed_info] at hmem
      · obtain ⟨hp', row', hrow', hsame, hpassword⟩ := hmem
        cases hfound : findUser u rows with
        | none =>
          rw [hfound] at hpassword
          rw [hpassword] at hsame
          exact absurd hsame not_same_nil
        | some row =>
          obtain ⟨hrow, hname⟩ := findUser_eq_some hfound
          rw [hfound] at hpassword
          refine .inl ⟨row, ⟨u, p, hu, hp, (mem_user_info hinfo hname).1 hrow, hname, hu', hp', ?_⟩, rfl⟩
          rwa [hpassword] at hsame
      · refine .inr ⟨fun hunique row hfinds => hmem ?_, rfl, fun x hx => (Option.mem_some_iff.1 hx) ▸ rfl⟩
        obtain ⟨hrow, hname, -, hp', hsame⟩ := hnames hu hp hfinds
        refine ⟨hp', row, hrow, hsame, ?_⟩
        cases hfound : findUser u rows with
        | none => exact absurd hname (findUser_eq_none hfound row ((mem_user_info hinfo hname).2 hrow))
        | some row' =>
          obtain ⟨hrow', hname'⟩ := findUser_eq_some hfound
          rw [hunique.eq hrow ((mem_user_info hinfo hname').1 hrow') (hname.trans hname'.symm)]
          rfl
  · next hargs =>
    refine .inr ⟨fun _ row hfinds => ?_, rfl, fun x hx => nomatch hx⟩
    obtain ⟨u, p, hu, hp, -⟩ := hfinds
    exact hargs u p hu hp

/-! ### The commands -/

/-- What a command can do to the table. -/
inductive Changes (db : Server) (users : List Row) (r : Request) : List Row → Option Response → Prop
  | failed (response : Option Response) (hfail : ∀ x ∈ response, x.success = false) : Changes db users r users response
  | added (u p : Str) (level : Int) (hu : r.arg "username" = some u) (hp : r.arg "password" = some p)
    (hvalid : validPassword p = true) (hnew : ∀ row ∈ users, ¬ db.Same row.username u) :
    Changes db users r (users ++ [⟨u, p, level⟩]) (some ⟨.useradd, true, ""⟩)
  | updated (u : Str) (level : Option Int) (hu : r.arg "username" = some u)
    (hvalid : ∀ p, r.arg "password" = some p → validPassword p = true) :
    Changes db users r (updateRows db users u (r.arg "password") level) (some ⟨.userupdate, true, ""⟩)
  | deleted (users' : List Row) (hsublist : users'.Sublist users) :
    Changes db users r users' (some ⟨.userdelete, true, ""⟩)

theorem Changes.fail {command : Command} {text : String} :
    Changes db users r users (some ⟨command, false, text⟩) :=
  .failed _ fun _ hx => (Option.mem_some_iff.1 hx) ▸ rfl

theorem Changes.throw : Changes db users r users none := .failed _ fun _ hx => nomatch hx

theorem changes_useradd : Changes db users r (useradd db users r).1 (useradd db users r).2 := by
  rw [useradd]
  split
  · next u p level hu hp hlevel =>
    split_ifs with hvalid
    · split
      · exact .throw
      · next users' hadd =>
        obtain ⟨u', p', level', n, hopts, -, hnew, rfl⟩ := user_add_true hadd
        obtain ⟨rfl, rfl, -⟩ : u = u' ∧ p = p' ∧ level = level' := by simpa using hopts
        exact .added u p n hu hp hvalid hnew
      · next users' hadd =>
        obtain rfl := user_add_false hadd
        exact .fail
    · exact .fail
  · exact .fail

theorem changes_userupdate : Changes db users r (userupdate db users r).1 (userupdate db users r).2 := by
  rw [userupdate]
  split_ifs
  · exact .fail
  · split
    · exact .fail
    · next hvalid =>
      split
      · exact .throw
      · next users' hupdate =>
        obtain ⟨u, level, hu, -, rfl, -⟩ := user_update_true hupdate
        refine .updated u level hu fun p hp => ?_
        rw [hp, Option.filter_eq_none_iff] at hvalid
        simpa using hvalid p rfl
      · next users' hupdate =>
        obtain rfl := user_update_false hupdate
        exact .fail

theorem changes_userdelete : Changes db users r (userdelete db users r).1 (userdelete db users r).2 := by
  rw [userdelete]
  split
  · exact .fail
  · next u hu =>
    have hsublist := user_delete_sublist db users u
    split
    · next users' hdelete =>
      rw [hdelete] at hsublist
      exact .deleted users' hsublist
    · next users' hdelete =>
      rw [user_delete] at hdelete
      split_ifs at hdelete
      · obtain rfl := (Prod.mk.inj hdelete).2
        exact .fail
      · exact absurd (Prod.mk.inj hdelete).1 (Bool.false_ne_true ∘ Eq.symm)

/-- What a command can do. -/
inductive Effects (db : Server) (users : List Row) (session : Session) (r : Request) : Effect → Prop
  | refused (hlogin : session.authorized = true ∨ r.command ≠ .login) :
    Effects db users session r ⟨users, session, false, none⟩
  | other (hauthorized : session.authorized = true) (hlogin : r.command ≠ .login)
    (hlevel : ∀ n, r.command.required = some n → n ≤ session.authorizationLevel) :
    Effects db users session r ⟨users, session, true, none⟩
  | logout (hauthorized : session.authorized = true) (hcommand : r.command = .logout) :
    Effects db users session r ⟨users, .start, true, some ⟨.logout, true, ""⟩⟩
  | change (users' : List Row) (response : Option Response) (hauthorized : session.authorized = true)
    (hlogin : r.command ≠ .login) (hlevel : ∀ n, r.command.required = some n → n ≤ session.authorizationLevel)
    (hchanges : Changes db users r users' response) : Effects db users session r ⟨users', session, true, response⟩
  | login (hauthorized : session.authorized = false) (hcommand : r.command = .login) :
    Effects db users session r ⟨users, (login db users session r).1, true, (login db users session r).2⟩

/-- A command with no effect but its own. -/
theorem effects_other {n : Int} (hauthorized : session.authorized = true) (hlogin : r.command ≠ .login)
    (hrequired : r.command.required = some n) :
    Effects db users session r ⟨users, session, session.authorizationLevel ≥ n, none⟩ := by
  by_cases hlevel : session.authorizationLevel ≥ n
  · rw [decide_eq_true hlevel]
    exact .other hauthorized hlogin fun m hm => Option.some.inj (hrequired.symm.trans hm) ▸ hlevel
  · rw [decide_eq_false hlevel]
    exact .refused (.inl hauthorized)

/-- A command of a system administrator on the table. -/
theorem effects_change (hauthorized : session.authorized = true) (hlogin : r.command ≠ .login)
    (hrequired : r.command.required = some SystemAdministrator) (hchanges : Changes db users r users' response) :
    Effects db users session r (if session.authorizationLevel ≥ SystemAdministrator then
      ⟨users', session, true, response⟩ else ⟨users, session, false, none⟩) := by
  split_ifs with hlevel
  · exact .change _ _ hauthorized hlogin (fun m hm => Option.some.inj (hrequired.symm.trans hm) ▸ hlevel) hchanges
  · exact .refused (.inl hauthorized)

theorem effects_execute (db : Server) (users : List Row) (session : Session) (r : Request) :
    Effects db users session r (execute db users session r) := by
  rw [execute]
  by_cases hauthorized : session.authorized = true
  · rw [if_pos hauthorized]
    have hne {command : Command} (hcommand : r.command = command) (hlogin : command ≠ .login) : r.command ≠ .login :=
      hcommand ▸ hlogin
    cases hcommand : r.command with
    | enable | disable | set | plugininstall | pluginuninstall | clearlog | userlist | uploadfile =>
      exact effects_other hauthorized (hne hcommand (by decide)) (by rw [hcommand]; rfl)
    | logout => exact .logout hauthorized hcommand
    | useradd =>
      dsimp only
      exact effects_change hauthorized (hne hcommand (by decide)) (by rw [hcommand]; rfl) changes_useradd
    | userupdate =>
      dsimp only
      exact effects_change hauthorized (hne hcommand (by decide)) (by rw [hcommand]; rfl) changes_userupdate
    | userdelete =>
      dsimp only
      exact effects_change hauthorized (hne hcommand (by decide)) (by rw [hcommand]; rfl) changes_userdelete
    | login | other => exact .refused (.inl hauthorized)
  · rw [if_neg hauthorized]
    rw [Bool.not_eq_true] at hauthorized
    cases hcommand : r.command with
    | login => exact .login hauthorized hcommand
    | _ => exact .refused (.inr (by rw [hcommand]; decide))

/-! ### What is stored -/

/-- A password as a command sets it. -/
def Text (x : Str) : Prop := (∀ c ∈ x, c ≠ 32) ∧ ∃ c ∈ x, Symbol c

theorem text_of_valid (hvalid : validPassword p = true) : Text p := by
  obtain ⟨-, hchars, hsymbol, -⟩ := of_decide_eq_true hvalid
  refine ⟨fun c hc => ?_, hsymbol⟩
  rintro rfl
  exact absurd (hchars 32 hc) (by decide)

theorem Text.not_same (htext : Text x) : ¬ db.Same x (db.SHA2 p) := by
  obtain ⟨hspace, c, hc, hsymbol⟩ := htext
  exact not_same_of_symbol hspace hc hsymbol

/-- A row holds a password that a command has set, or the digest of a password of the installation, which is then the one
last set. -/
def Stored (db : Server) (Q : List Str) (h : History) (row : Row) : Prop :=
  Text row.password ∨ ∃ q ∈ Q, row.password = db.SHA2 q ∧ h.password row.username = some q

theorem Stored.of_same (hstored : Stored db Q h row) (hsame : db.Same row.password (db.SHA2 p)) :
    row.password = db.SHA2 p ∧ ∃ q ∈ Q, db.SHA2 q = db.SHA2 p ∧ h.password row.username = some q := by
  rcases hstored with htext | ⟨q, hq, hpassword, hlast⟩
  · exact absurd hsame htext.not_same
  · rw [hpassword, same_SHA2] at hsame
    exact ⟨hpassword.trans hsame, q, hq, hsame, hlast⟩

/-- A change of another name, or of a level. -/
theorem Stored.change (hstored : Stored db Q h row)
    (hother : r.arg "username" = some row.username → r.arg "password" = none) : Stored db Q (h.change r) row := by
  rcases hstored with htext | ⟨q, hq, hpassword, hlast⟩
  · exact .inl htext
  · refine .inr ⟨q, hq, hpassword, ?_⟩
    rw [History.change]
    dsimp only
    split_ifs with hname
    · rw [hother hname, Option.none_or, hlast]
    · exact hlast

/-- The level that a session has logged in with. -/
def Session.level (session : Session) : Option Int :=
  if session.authorized then some session.authorizationLevel else none

structure Inv (db : Server) (Q : List Str) (s : State) (h : History) : Prop where
  unique : UniqueNames db s.users
  stored : ∀ row ∈ s.users, Stored db Q h row
  loggedIn : ∀ i, h.loggedIn i = (s.sessions i).bind Session.level

theorem Changes.unique (hunique : UniqueNames db users) (hchanges : Changes db users r users' response) :
    UniqueNames db users' := by
  cases hchanges with
  | failed _ hfail => exact hunique
  | added u p level hu hp hvalid hnew => exact hunique.concat hnew
  | updated u level hu hvalid => exact hunique.updateRows _ _
  | deleted _ hsublist => exact hunique.sublist hsublist

/-- A response that says no is not the one of an accepted command. -/
theorem ne_accepted {command : Command} (hfail : ∀ x ∈ response, x.success = false) :
    response ≠ some ⟨command, true, ""⟩ := by
  rintro rfl
  exact nomatch hfail _ rfl

theorem Changes.stored (hstored : ∀ row ∈ users, Stored db Q h row) (hchanges : Changes db users r users' response) :
    ∀ row ∈ users', Stored db Q
      (if response = some ⟨.useradd, true, ""⟩ ∨ response = some ⟨.userupdate, true, ""⟩ then h.change r else h) row := by
  cases hchanges with
  | failed _ hfail =>
    rw [if_neg (not_or.2 ⟨ne_accepted hfail, ne_accepted hfail⟩)]
    exact hstored
  | added u p level hu hp hvalid hnew =>
    rw [if_pos (.inl rfl)]
    refine List.forall_mem_append.2 ⟨fun row hrow => ?_, List.forall_mem_singleton.2 (.inl (text_of_valid hvalid))⟩
    refine (hstored row hrow).change fun hname => ?_
    obtain rfl := Option.some.inj (hu.symm.trans hname)
    exact absurd rfl (hnew row hrow)
  | updated u level hu hvalid =>
    rw [if_pos (.inr rfl), updateRows]
    refine List.forall_mem_map.2 fun row hrow => ?_
    split_ifs with hsame
    · cases hpassword : r.arg "password" with
      | none => exact (hstored row hrow).change fun _ => hpassword
      | some p => exact .inl (text_of_valid (hvalid p hpassword))
    · refine (hstored row hrow).change fun hname => ?_
      obtain rfl := Option.some.inj (hu.symm.trans hname)
      exact absurd rfl hsame
  | deleted _ hsublist =>
    rw [if_neg (by simp)]
    exact fun row hrow => hstored row (hsublist.subset hrow)

theorem Effects.unique (hunique : UniqueNames db users) (heffects : Effects db users session r effect) :
    UniqueNames db effect.users := by
  cases heffects with
  | change users' response _ _ _ hchanges => exact hchanges.unique hunique
  | _ => exact hunique

/-- A login and a logout that succeed, and everything else. -/
theorem Effects.granted (heffects : Effects db users session r effect) :
    (effect.response = some ⟨.login, true, ""⟩ ∧ effect.session.authorized = true) ∨
    (effect.response = some ⟨.logout, true, ""⟩ ∧ effect.session.authorized = false) ∨
    effect.response ≠ some ⟨.login, true, ""⟩ ∧ effect.response ≠ some ⟨.logout, true, ""⟩ ∧
      effect.session = session := by
  cases heffects with
  | refused => exact .inr (.inr ⟨nofun, nofun, rfl⟩)
  | other => exact .inr (.inr ⟨nofun, nofun, rfl⟩)
  | logout => exact .inr (.inl ⟨rfl, rfl⟩)
  | change users' response _ _ _ hchanges =>
    refine .inr (.inr ?_)
    cases hchanges with
    | failed _ hfail => exact ⟨ne_accepted hfail, ne_accepted hfail, rfl⟩
    | _ => exact ⟨by simp, by simp, rfl⟩
  | login =>
    rcases login_cases db users session r with ⟨row, -, hlogin⟩ | ⟨-, hsession, hfail⟩
    · rw [hlogin]
      exact .inl ⟨rfl, rfl⟩
    · exact .inr (.inr ⟨ne_accepted hfail, ne_accepted hfail, hsession⟩)

theorem Effects.stored (hstored : ∀ row ∈ users, Stored db Q h row) (heffects : Effects db users session r effect) :
    ∀ row ∈ effect.users, Stored db Q (if effect.response = some ⟨.useradd, true, ""⟩ ∨
      effect.response = some ⟨.userupdate, true, ""⟩ then h.change r else h) row := by
  have hsame (hadd : effect.response ≠ some ⟨.useradd, true, ""⟩) (hupdate : effect.response ≠ some ⟨.userupdate, true, ""⟩)
      (husers : effect.users = users) : ∀ row ∈ effect.users, Stored db Q (if effect.response = some ⟨.useradd, true, ""⟩ ∨
        effect.response = some ⟨.userupdate, true, ""⟩ then h.change r else h) row := by
    rw [if_neg (not_or.2 ⟨hadd, hupdate⟩), husers]
    exact hstored
  cases heffects with
  | refused => exact hsame nofun nofun rfl
  | other => exact hsame nofun nofun rfl
  | logout => exact hsame (by simp) (by simp) rfl
  | change users' response _ _ _ hchanges => exact hchanges.stored hstored
  | login =>
    rcases login_cases db users session r with ⟨row, -, hlogin⟩ | ⟨-, -, hfail⟩
    · exact hsame (by simp [hlogin]) (by simp [hlogin]) rfl
    · exact hsame (ne_accepted hfail) (ne_accepted hfail) rfl

/-! ### Steps -/

theorem accepted_apply {command : Command} :
    (s.apply i r effect).accepted command = true ↔ effect.response = some ⟨command, true, ""⟩ :=
  decide_eq_true_iff

theorem sessions_apply : (s.apply i r effect).sessions i = some effect.session := Function.update_self _ _ _

theorem levelOf_apply : (s.apply i r effect).levelOf i = some effect.session.authorizationLevel := by
  rw [State.levelOf, sessions_apply]
  rfl

theorem loggedIn_request (h : History) (s t : State) : (h.request s i r t).loggedIn =
    if t.accepted .login then Function.update h.loggedIn i (t.levelOf i)
    else if t.accepted .logout then Function.update h.loggedIn i none
    else h.loggedIn := rfl

theorem Inv.apply (hinv : Inv db Q s h) (hsession : s.sessions i = some session)
    (heffects : Effects db s.users session r effect) :
    Inv db Q (s.apply i r effect) (h.request s i r (s.apply i r effect)) where
  unique := heffects.unique hinv.unique
  stored := by
    have hstored := heffects.stored hinv.stored
    simp only [← accepted_apply (s := s) (i := i) (r := r)] at hstored
    exact hstored
  loggedIn := by
    intro j
    rw [loggedIn_request, levelOf_apply]
    by_cases hj : j = i
    · subst hj
      rw [sessions_apply, Option.bind_some, Session.level]
      rcases heffects.granted with ⟨hresponse, hauthorized⟩ | ⟨hresponse, hauthorized⟩ | ⟨hlogin, hlogout, hsame⟩
      · rw [if_pos (accepted_apply.2 hresponse), Function.update_self, if_pos hauthorized]
      · have hlogin : ¬ (s.apply j r effect).accepted .login = true := by
          rw [accepted_apply, hresponse]
          simp
        rw [if_neg hlogin, if_pos (accepted_apply.2 hresponse), Function.update_self, hauthorized]
        rfl
      · rw [if_neg fun h => hlogin (accepted_apply.1 h), if_neg fun h => hlogout (accepted_apply.1 h), hinv.loggedIn j,
          hsession, hsame]
        rfl
    · have hother : (s.apply i r effect).sessions j = s.sessions j := Function.update_of_ne hj _ _
      rw [hother, ← hinv.loggedIn j]
      split_ifs
      · exact Function.update_of_ne hj _ _
      · exact Function.update_of_ne hj _ _
      · rfl

theorem Inv.step (hinv : Inv db Q s h) (hstep : s.step db e = some t) : Inv db Q t (h.after s e t) := by
  have hset (i : Nat) (session : Option Session) (hlevel : session.bind Session.level = none) :
      Inv db Q (s.setSession i session) { h with loggedIn := Function.update h.loggedIn i none } := by
    refine ⟨hinv.unique, hinv.stored, fun j => ?_⟩
    rw [State.setSession]
    dsimp only
    by_cases hj : j = i
    · subst hj
      rw [Function.update_self, Function.update_self, hlevel]
    · rw [Function.update_of_ne hj, Function.update_of_ne hj, hinv.loggedIn j]
  cases e with
  | «open» i =>
    rw [State.step] at hstep
    split_ifs at hstep
    obtain rfl := Option.some.inj hstep
    exact hset i _ rfl
  | close i =>
    rw [State.step] at hstep
    split_ifs at hstep
    obtain rfl := Option.some.inj hstep
    exact hset i _ rfl
  | request i r =>
    obtain ⟨session, hsession, rfl⟩ := Option.map_eq_some_iff.1 hstep
    exact hinv.apply hsession (effects_execute db s.users session r)

/-- The gate holds in every step. -/
theorem allowed_step (hinv : Inv db Q s h) (hstep : s.step db e = some t) (hgate : ∀ x ∈ h.executed, Allowed x.1 x.2) :
    ∀ x ∈ (h.after s e t).executed, Allowed x.1 x.2 := by
  cases e with
  | «open» i => exact hgate
  | close i => exact hgate
  | request i r =>
    obtain ⟨session, hsession, rfl⟩ := Option.map_eq_some_iff.1 hstep
    refine List.forall_mem_append.2 ⟨hgate, List.forall_mem_map.2 fun command hcommand => ?_⟩
    rw [hinv.loggedIn i, hsession, Option.bind_some, Session.level]
    rw [Option.mem_toList, State.apply] at hcommand
    have heffects := effects_execute db s.users session r
    generalize execute db s.users session r = effect at heffects hcommand
    cases heffects with
    | refused => exact nomatch hcommand
    | other hauthorized hlogin hlevel =>
      obtain rfl := Option.some.inj hcommand
      rw [if_pos hauthorized]
      exact ⟨hlogin, hlevel⟩
    | logout hauthorized hlogout =>
      obtain rfl := Option.some.inj hcommand
      rw [if_pos hauthorized, hlogout]
      exact ⟨Command.noConfusion, nofun⟩
    | change _ _ hauthorized hlogin hlevel =>
      obtain rfl := Option.some.inj hcommand
      rw [if_pos hauthorized]
      exact ⟨hlogin, hlevel⟩
    | login hauthorized hlogin =>
      obtain rfl := Option.some.inj hcommand
      rw [hauthorized]
      exact hlogin

/-- A login agrees with what was last set exactly if it meets the condition. -/
theorem agrees_iff (hinv : Inv db Q s h) (hsession : s.sessions i = some session)
    (hinjective : ∀ p, r.arg "password" = some p → ∀ q ∈ Q, db.SHA2 q = db.SHA2 p → q = p) :
    (∀ a ∈ h.attempt s i r (s.apply i r (execute db s.users session r)), a.Agrees) ↔
      Sound db (s, h) (.request i r) := by
  rw [History.attempt]
  split
  · next u p hlogin hloggedIn hu hp =>
    have hauthorized : session.authorized = false := by
      rw [hinv.loggedIn i, hsession, Option.bind_some, Session.level] at hloggedIn
      split_ifs at hloggedIn with hauthorized
      exact Bool.eq_false_iff.2 hauthorized
    have hexecute : execute db s.users session r =
        ⟨s.users, (login db s.users session r).1, true, (login db s.users session r).2⟩ := by
      rw [execute, hauthorized, hlogin]
      rfl
    have hsound : Sound db (s, h) (.request i r) ↔ (h.password u = some p → ∀ row ∈ s.users, row.username = u →
        u ≠ [] ∧ p ≠ [] ∧ row.password = db.SHA2 p ∧ h.level u = some row.accessLevel) := by
      constructor
      · exact fun hsound => hsound hlogin hloggedIn u p hu hp
      · intro hsound _ _ u' p' hu' hp'
        obtain rfl := Option.some.inj (hu.symm.trans hu')
        obtain rfl := Option.some.inj (hp.symm.trans hp')
        exact hsound
    rw [List.forall_mem_singleton, hsound, levelOf_apply]
    rcases login_cases db s.users session r with ⟨row, hfinds, hresult⟩ | ⟨hnone, -, hfail⟩
    · obtain ⟨u', p', hu', hp', hrow, hname, hnonempty, hpassword, hsame⟩ := hfinds
      obtain rfl := Option.some.inj (hu.symm.trans hu')
      obtain rfl := Option.some.inj (hp.symm.trans hp')
      obtain ⟨hdigest, q, hq, hcollide, hlast⟩ := (hinv.stored row hrow).of_same hsame
      obtain rfl := hinjective p hp q hq hcollide
      rw [hname] at hlast
      have haccepted : (s.apply i r (execute db s.users session r)).accepted .login = true := by
        rw [accepted_apply, hexecute, hresult]
      rw [if_pos haccepted, hexecute, hresult]
      constructor
      · intro hagrees _ row' hrow' hname'
        obtain rfl := hinv.unique.eq hrow hrow' (hname.trans hname'.symm)
        exact ⟨hnonempty, hpassword, hdigest, hagrees.level _ rfl⟩
      · intro hsound
        refine ⟨iff_of_true rfl ⟨List.any_eq_true.2 ⟨row, hrow, decide_eq_true hname⟩, hlast⟩, fun n hn => ?_⟩
        obtain rfl := Option.some.inj hn
        exact (hsound hlast row hrow hname).2.2.2
    · have haccepted : ¬ (s.apply i r (execute db s.users session r)).accepted .login = true := by
        rw [accepted_apply, hexecute]
        exact ne_accepted hfail
      rw [if_neg haccepted]
      constructor
      · intro hagrees hlast row hrow hname
        have hexist : s.users.any (fun row => row.username = u) = true :=
          List.any_eq_true.2 ⟨row, hrow, decide_eq_true hname⟩
        exact nomatch hagrees.succeeds.2 ⟨hexist, hlast⟩
      · intro hsound
        refine ⟨iff_of_false nofun fun ⟨hexist, hlast⟩ => ?_, nofun⟩
        obtain ⟨row, hrow, hname⟩ := List.any_eq_true.1 hexist
        have hname := of_decide_eq_true hname
        obtain ⟨hu', hp', hdigest, -⟩ := hsound hlast row hrow hname
        exact hnone hinv.unique row ⟨u, p, hu, hp, hrow, hname, hu', hp', congrArg db.key hdigest⟩
  · next hargs =>
    refine iff_of_true (fun a ha => absurd ha List.not_mem_nil) ?_
    exact fun hlogin hloggedIn u p hu hp => absurd hp (hargs u p hlogin hloggedIn hu)

/-! ### Runs -/

theorem mem_passwords (installation : Installation db) {q : Str} (hq : q ∈ installation.accounts.map Account.password) :
    q ∈ passwords installation es := List.mem_append_left _ hq

theorem inv_init (installation : Installation db) : Inv db (installation.accounts.map Account.password)
    (State.init installation) (History.start installation.accounts) where
  unique := installation.unique
  stored := by
    refine List.forall_mem_map.2 fun a ha => .inr ⟨a.password, List.mem_map_of_mem ha, rfl, ?_⟩
    have hunique := installation.unique
    rw [UniqueNames, List.map_map] at hunique
    cases hfind : installation.accounts.find? fun a' => a'.username = a.username with
    | none => exact absurd rfl (of_decide_eq_false (Bool.eq_false_iff.2 (List.find?_eq_none.1 hfind a ha)))
    | some a' =>
      have hname := of_decide_eq_true (List.find?_some (p := fun a' : Account => a'.username = a.username) hfind)
      obtain rfl := List.inj_on_of_nodup_map hunique (List.mem_of_find?_eq_some hfind) ha (congrArg db.key hname)
      exact congrArg (Option.map Account.password) hfind
  loggedIn _ := rfl

theorem user_accounts (installation : Installation db) {s : State × History}
    (hinjective : ∀ p ∈ passwords installation es, ∀ q ∈ passwords installation es, db.SHA2 q = db.SHA2 p → q = p)
    (hexec : (accounts installation).exec (accounts installation).init es = some s) :
    (∀ es' s', es' <+: es → (accounts installation).exec (accounts installation).init es' = some s' → s'.2.Agrees) ↔
      (accounts installation).Meets (Sound db) (accounts installation).init es := by
  set Q := installation.accounts.map Account.password
  -- one step: the logins agree behind it exactly if they agree before it and it meets the condition
  have hone : ∀ {s t : State × History} {e : Event}, (∀ i r, e = .request i r → ∀ p, r.arg "password" = some p →
      p ∈ passwords installation es) → Inv db Q s.1 s.2 → (accounts installation).step s e = some t →
      Inv db Q t.1 t.2 ∧ (s.2.Agrees → (t.2.Agrees ↔ Sound db s e)) := by
    intro s t e he hinv hstep
    obtain ⟨hstep, hhistory⟩ := Machine.step_withGhost.1 hstep
    rw [hhistory]
    refine ⟨hinv.step hstep, fun hagrees => ?_⟩
    have hgate := allowed_step hinv hstep hagrees.gate
    cases e with
    | «open» i => exact iff_of_true ⟨hagrees.logins, hgate⟩ trivial
    | close i => exact iff_of_true ⟨hagrees.logins, hgate⟩ trivial
    | request i r =>
      obtain ⟨session, hsession, happly⟩ := Option.map_eq_some_iff.1 hstep
      rw [← happly] at hgate ⊢
      rw [← agrees_iff hinv hsession fun p hp q hq hcollide =>
        hinjective p (he i r rfl p hp) q (mem_passwords installation hq) hcollide]
      constructor
      · exact fun h a ha => h.logins a (List.mem_append_right _ ha)
      · exact fun h => ⟨List.forall_mem_append.2 ⟨hagrees.logins, h⟩, hgate⟩
  refine (accounts installation).always_iff_meets_of (I := fun _ s => Inv db Q s.1 s.2 ∧ s.2.Agrees)
    (E := fun e => ∀ i r, e = .request i r → ∀ p, r.arg "password" = some p → p ∈ passwords installation es)
    ⟨inv_init installation, ⟨fun a ha => absurd ha List.not_mem_nil, fun x hx => absurd hx List.not_mem_nil⟩⟩
    ?_ (fun _ _ hI => hI.2) ?_ ?_ hexec
  · intro _ s e t he hI hsound hstep
    obtain ⟨hinv, hiff⟩ := hone he hI.1 hstep
    exact ⟨hinv, (hiff hI.2).2 hsound⟩
  · intro _ s e t he hI hstep hagrees
    exact ((hone he hI.1 hstep).2 hI.2).1 hagrees
  · rintro e he i r rfl p hp
    exact List.mem_append_right _ (List.mem_filterMap.2 ⟨.request i r, he, hp⟩)

/-! ### A user that is added -/

/-- Letters are compared without their case. -/
def upper (c : UInt8) : UInt8 := if LowerCase c then c - 32 else c

theorem upper_hex {c : UInt8} (hc : HexDigit c) :
    Digit c ∧ upper c = c ∨ (97 ≤ c ∧ c ≤ 102) ∧ upper c = c - 32 ∧ 65 ≤ upper c ∧ upper c ≤ 70 := by
  rcases hc with hdigit | hletter
  · have hlower : ¬ LowerCase c := fun hlower => absurd (UInt8.le_trans hlower.1 hdigit.2) (by decide)
    exact .inl ⟨hdigit, if_neg hlower⟩
  · have hlower : LowerCase c := ⟨hletter.1, UInt8.le_trans hletter.2 (by decide)⟩
    rw [upper, if_pos hlower]
    have h97 : 97 ≤ c.toNat := hletter.1
    have h102 : c.toNat ≤ 102 := hletter.2
    have hsub : (c - 32).toNat = c.toNat - 32 := UInt8.toNat_sub_of_le c 32 (UInt8.le_trans (by decide) hletter.1)
    refine .inr ⟨hletter, rfl, ?_, ?_⟩
    · rw [UInt8.le_iff_toNat_le, hsub]
      exact Nat.le_sub_of_add_le h97
    · rw [UInt8.le_iff_toNat_le, hsub]
      exact Nat.sub_le_of_le_add h102

theorem upper_symbol : ∀ c ∈ CString.lit "-!@#$%^&*+=<>?", upper c = c ∧ ¬ Digit c ∧ ¬ (65 ≤ c ∧ c ≤ 70) := by
  rw [CString.lit_ofList]
  exact List.all_iff_forall_prop.1 (by decide +kernel)

theorem digest_user : (CString.lit "04f8996da763b7a969b1028ee3007569eaf3a635486ddab211d512c85b9df8fb").length = 64 ∧
    ∀ c ∈ CString.lit "04f8996da763b7a969b1028ee3007569eaf3a635486ddab211d512c85b9df8fb", HexDigit c := by
  rw [CString.lit_ofList]
  exact ⟨by decide, List.all_iff_forall_prop.1 (by decide +kernel)⟩

theorem digest_password : (CString.lit "e66860546f18cdbbcd86b35e18b525bffc67f772c650cedfe3ff7a0026fa1dee").length = 64 ∧
    ∀ c ∈ CString.lit "e66860546f18cdbbcd86b35e18b525bffc67f772c650cedfe3ff7a0026fa1dee", HexDigit c := by
  rw [CString.lit_ofList]
  exact ⟨by decide, List.all_iff_forall_prop.1 (by decide +kernel)⟩

/-- A server with the digests of two passwords. -/
def server : Server where
  weight := upper
  SHA2 p :=
    if p = CString.lit "user" then CString.lit "04f8996da763b7a969b1028ee3007569eaf3a635486ddab211d512c85b9df8fb"
    else if p = CString.lit "Passw0rd!" then
      CString.lit "e66860546f18cdbbcd86b35e18b525bffc67f772c650cedfe3ff7a0026fa1dee"
    else List.replicate 64 48
  weight_symbol c d hc hd := by
    obtain ⟨hupper, hdigit, hletter⟩ := upper_symbol c hc
    rw [hupper]
    rcases upper_hex hd with ⟨hd, heq⟩ | ⟨-, -, h65, h70⟩
    · rw [heq]
      rintro rfl
      exact hdigit hd
    · intro heq
      exact hletter ⟨heq ▸ h65, heq ▸ h70⟩
  weight_hex c d hc hd h := by
    rcases upper_hex hc with ⟨hc, heq⟩ | ⟨-, heq, h65, -⟩
    · rcases upper_hex hd with ⟨-, heq'⟩ | ⟨-, -, h65, -⟩
      · exact heq.symm.trans (h.trans heq')
      · rw [← h, heq] at h65
        exact absurd (UInt8.le_trans h65 hc.2) (by decide)
    · rcases upper_hex hd with ⟨hd, heq'⟩ | ⟨-, heq', -, -⟩
      · rw [h, heq'] at h65
        exact absurd (UInt8.le_trans h65 hd.2) (by decide)
      · exact (UInt8.sub_left_inj 32).1 (heq.symm.trans (h.trans heq'))
  length_SHA2 p := by
    split_ifs
    · exact digest_user.1
    · exact digest_password.1
    · exact List.length_replicate
  digits_SHA2 p := by
    split_ifs
    · exact digest_user.2
    · exact digest_password.2
    · exact fun c hc => (List.eq_of_mem_replicate hc) ▸ by decide

/-- The user of the development environment. -/
def developer : Installation server := ⟨[⟨CString.lit "user", CString.lit "user", 3⟩], List.nodup_singleton _⟩

def loginRequest (user password : String) : Request :=
  ⟨.login, [("user", CString.lit user), ("password", CString.lit password)]⟩

def addRequest (username password level : String) : Request :=
  ⟨.useradd, [("username", CString.lit username), ("password", CString.lit password),
    ("accesslevel", CString.lit level)]⟩

theorem user_accounts_installed : (∀ es' s', es' <+: [.open 1, .request 1 (loginRequest "user" "user")] →
      (accounts developer).exec (accounts developer).init es' = some s' → s'.2.Agrees) ↔
    (accounts developer).Meets (Sound server) (accounts developer).init
      [.open 1, .request 1 (loginRequest "user" "user")] :=
  user_accounts developer (by decide +kernel)
    (s := ((accounts developer).exec (accounts developer).init [.open 1, .request 1 (loginRequest "user" "user")]).get rfl)
    (Option.some_get _).symm

/-- A user is added, and cannot log in. -/
theorem user_accounts_added : ∃ s, (accounts developer).exec (accounts developer).init
      [.open 1, .request 1 (loginRequest "user" "user"), .request 1 (addRequest "bob" "Passw0rd!" "1"), .open 2,
        .request 2 (loginRequest "bob" "Passw0rd!")] = some s ∧ ¬ s.2.Agrees := by
  refine ⟨_, rfl, fun hagrees => ?_⟩
  have hlogin := hagrees.logins ⟨CString.lit "bob", CString.lit "Passw0rd!", true, some (CString.lit "Passw0rd!"), some 1,
    none⟩ (by decide +kernel)
  exact nomatch hlogin.succeeds.2 ⟨rfl, rfl⟩

end V2xHub.CommandPlugin
