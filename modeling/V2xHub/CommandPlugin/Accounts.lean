import V2xHub.Lib.Machine
import V2xHub.TmxCtl.Users

/-!
# Accounts and sessions

The commands of admin sessions in `CommandPlugin::WSCallbackBASE64`: the gate in front of every command, the login, and the
commands that change the table of users. Of the other commands only the gate is here. An account of the installation is in
the table with the digest of its password.

The history is what a login is held against: the password and the level last set for a name, by the
installation or by an accepted command, and the level a session has logged in with.
-/

namespace V2xHub.CommandPlugin
open TmxCtl

namespace AuthorizationLevels

def ReadOnly : Int := 1

def ApplicationAdministrator : Int := 2

def SystemAdministrator : Int := 3

end AuthorizationLevels
open AuthorizationLevels

inductive Command where
  | enable | disable | set | logout | clearlog | userlist | useradd | userupdate | userdelete | uploadfile | plugininstall
  | pluginuninstall | login
  /-- A command that the plugin does not know. -/
  | other
deriving DecidableEq

structure Request where
  command : Command
  argsList : List (String × Str)

def Request.arg (r : Request) (name : String) : Option Str := r.argsList.lookup name

structure Response where
  command : Command
  success : Bool
  text : String
deriving DecidableEq

/-- What `psdata` has about the authorization. -/
structure Session where
  authorized : Bool
  authorizationLevel : Int

def Session.start : Session := ⟨false, ReadOnly⟩

instance (password : Str) : Decidable (∀ c ∈ password, Symbol c ∨ Digit c ∨ LowerCase c ∨ UpperCase c) :=
  List.decidableBAll _ password

def validPassword (password : Str) : Bool :=
  8 ≤ password.length ∧ (∀ c ∈ password, Symbol c ∨ Digit c ∨ LowerCase c ∨ UpperCase c) ∧ (∃ c ∈ password, Symbol c) ∧
    (∃ c ∈ password, Digit c) ∧ (∃ c ∈ password, LowerCase c) ∧ ∃ c ∈ password, UpperCase c

/-- What is wrong with a password. An invalid character is reported for a short one, as the length is. -/
def passwordError (start : String) (password : Str) : String :=
  start ++ (if password.length < 8 then " (Invalid Length) (Invalid Character)" else "") ++
    (if ∃ c ∈ password, Symbol c then "" else " (No Symbol)") ++ (if ∃ c ∈ password, Digit c then "" else " (No Number)") ++
    (if ∃ c ∈ password, LowerCase c then "" else " (No Lower Case Letter)") ++
    (if ∃ c ∈ password, UpperCase c then "" else " (No Upper Case Letter)")

section
variable (db : Server)

def useradd (users : List Row) (r : Request) : List Row × Option Response :=
  match r.arg "username", r.arg "password", r.arg "accesslevel" with
  | some username, some password, some accesslevel =>
    if validPassword password then
      match user_add db users ⟨some username, some password, some accesslevel⟩ with
      -- the exception ends the command
      | none => (users, none)
      | some (true, users) => (users, some ⟨.useradd, true, ""⟩)
      | some (false, users) => (users, some ⟨.useradd, false, "User add failed"⟩)
    else (users, some ⟨.useradd, false, passwordError "User add failed:" password⟩)
  | _, _, _ => (users, some ⟨.useradd, false, "User add failed, missing command arguments"⟩)

def userupdate (users : List Row) (r : Request) : List Row × Option Response :=
  if r.arg "username" = none ∨ r.arg "password" = none ∧ r.arg "accesslevel" = none then
    (users, some ⟨.userupdate, false, "User update failed, missing command arguments"⟩)
  else
    match (r.arg "password").filter fun password => ¬ validPassword password with
    | some password => (users, some ⟨.userupdate, false, passwordError "User update failed:" password⟩)
    | none =>
      match user_update db users ⟨r.arg "username", r.arg "password", r.arg "accesslevel"⟩ with
      | none => (users, none)
      | some (true, users) => (users, some ⟨.userupdate, true, ""⟩)
      | some (false, users) => (users, some ⟨.userupdate, false, "User update failed"⟩)

def userdelete (users : List Row) (r : Request) : List Row × Option Response :=
  match r.arg "username" with
  | none => (users, some ⟨.userdelete, false, "User delete failed, missing command arguments"⟩)
  | some username =>
    match user_delete db users username with
    | (true, users) => (users, some ⟨.userdelete, true, ""⟩)
    | (false, users) => (users, some ⟨.userdelete, false, "User delete failed"⟩)

/-- The loop over the rows of the name. -/
def findUser (user : Str) (rows : List Row) : Option Row :=
  rows.foldl (fun found row => if row.username = user then some row else found) none

def login (users : List Row) (session : Session) (r : Request) : Session × Option Response :=
  match r.arg "user", r.arg "password" with
  | some user, some password =>
    match user_info db users user with
    | none => (session, some ⟨.login, false, "Cannot get user info"⟩)
    | some [] => (session, some ⟨.login, false, "Invalid user name"⟩)
    | some rows =>
      let found := findUser user rows
      if ((found.map Row.password).getD []) ∈ (hashed_info db users password).getD [] then
        -- the level of a session stays if there is none to read
        (⟨true, (found.map Row.accessLevel).getD session.authorizationLevel⟩, some ⟨.login, true, ""⟩)
      else (session, some ⟨.login, false, "Invalid user name or password"⟩)
  | _, _ => (session, none)

/-- What a command does to the table and to the session, whether its branch is taken, and the response. -/
structure Effect where
  users : List Row
  session : Session
  executed : Bool
  response : Option Response

def execute (users : List Row) (session : Session) (r : Request) : Effect :=
  if session.authorized then
    match r.command with
    | .enable | .disable | .set | .plugininstall | .pluginuninstall =>
      ⟨users, session, session.authorizationLevel ≥ ApplicationAdministrator, none⟩
    | .logout => ⟨users, .start, true, some ⟨.logout, true, ""⟩⟩
    | .clearlog | .userlist | .uploadfile => ⟨users, session, session.authorizationLevel ≥ SystemAdministrator, none⟩
    | .useradd =>
      if session.authorizationLevel ≥ SystemAdministrator then
        ⟨(useradd db users r).1, session, true, (useradd db users r).2⟩
      else ⟨users, session, false, none⟩
    | .userupdate =>
      if session.authorizationLevel ≥ SystemAdministrator then
        ⟨(userupdate db users r).1, session, true, (userupdate db users r).2⟩
      else ⟨users, session, false, none⟩
    | .userdelete =>
      if session.authorizationLevel ≥ SystemAdministrator then
        ⟨(userdelete db users r).1, session, true, (userdelete db users r).2⟩
      else ⟨users, session, false, none⟩
    | .login | .other => ⟨users, session, false, none⟩
  else
    match r.command with
    | .login => ⟨users, (login db users session r).1, true, (login db users session r).2⟩
    | _ => ⟨users, session, false, none⟩

end

structure State where
  users : List Row
  /-- The sessions of the open connections. -/
  sessions : Nat → Option Session
  /-- The command that the last event executed. -/
  executed : Option Command
  response : Option Response

inductive Event where
  | open (i : Nat)
  | close (i : Nat)
  | request (i : Nat) (r : Request)

def State.setSession (s : State) (i : Nat) (session : Option Session) : State :=
  { s with sessions := Function.update s.sessions i session, executed := none, response := none }

/-- The state behind a command of the session. -/
def State.apply (s : State) (i : Nat) (r : Request) (effect : Effect) : State where
  users := effect.users
  sessions := Function.update s.sessions i (some effect.session)
  executed := if effect.executed then some r.command else none
  response := effect.response

def State.step (db : Server) (s : State) : Event → Option State
  | .open i => if (s.sessions i).isNone then some (s.setSession i (some .start)) else none
  | .close i => if (s.sessions i).isSome then some (s.setSession i none) else none
  | .request i r => (s.sessions i).map fun session => s.apply i r (execute db s.users session r)

/-- An account of the installation. -/
structure Account where
  username : Str
  password : Str
  accessLevel : Int

def Account.row (db : Server) (a : Account) : Row := ⟨a.username, db.SHA2 a.password, a.accessLevel⟩

structure Installation (db : Server) where
  accounts : List Account
  unique : UniqueNames db (accounts.map (Account.row db))

def State.init {db : Server} (installation : Installation db) : State :=
  ⟨installation.accounts.map (Account.row db), fun _ => none, none, none⟩

def sessions {db : Server} (installation : Installation db) : Machine State Event :=
  ⟨State.init installation, State.step db⟩

/-! ### What was set, and who has logged in -/

/-- A login of a session that has not logged in, with what was last set for the name. -/
structure Attempt where
  user : Str
  password : Str
  exist : Bool
  lastPassword : Option Str
  lastLevel : Option Int
  /-- The level that the session gets, if the login succeeds. -/
  level : Option Int
deriving DecidableEq

structure Attempt.Agrees (a : Attempt) : Prop where
  succeeds : a.level.isSome ↔ a.exist ∧ a.lastPassword = some a.password
  level : ∀ n, a.level = some n → a.lastLevel = some n

structure History where
  password : Str → Option Str
  level : Str → Option Int
  loggedIn : Nat → Option Int
  attempts : List Attempt
  /-- The commands that were executed, each with the level that the session had logged in with. -/
  executed : List (Command × Option Int)

/-- The level that a command requires. -/
def Command.required : Command → Option Int
  | .enable | .disable | .set | .plugininstall | .pluginuninstall => some ApplicationAdministrator
  | .clearlog | .userlist | .useradd | .userupdate | .userdelete | .uploadfile => some SystemAdministrator
  | .logout | .login | .other => none

/-- Without a login only a login is executed. -/
def Allowed (command : Command) : Option Int → Prop
  | none => command = .login
  | some level => command ≠ .login ∧ ∀ n, command.required = some n → n ≤ level

def State.accepted (t : State) (command : Command) : Bool := t.response = some ⟨command, true, ""⟩

def State.levelOf (t : State) (i : Nat) : Option Int := (t.sessions i).map Session.authorizationLevel

namespace History

def start (accounts : List Account) : History where
  password u := (accounts.find? fun a => a.username = u).map Account.password
  level u := (accounts.find? fun a => a.username = u).map Account.accessLevel
  loggedIn _ := none
  attempts := []
  executed := []

/-- The password and the level that an accepted command sets for the name. -/
def change (h : History) (r : Request) : History where
  password u := if r.arg "username" = some u then (r.arg "password").or (h.password u) else h.password u
  level u :=
    if r.arg "username" = some u then
      match (r.arg "accesslevel").filter isNumber with
      | some level => stoi level
      | none => h.level u
    else h.level u
  loggedIn := h.loggedIn
  attempts := h.attempts
  executed := h.executed

def attempt (h : History) (s : State) (i : Nat) (r : Request) (t : State) : List Attempt :=
  match r.command, h.loggedIn i, r.arg "user", r.arg "password" with
  | .login, none, some user, some password =>
    [⟨user, password, s.users.any fun row => row.username = user, h.password user, h.level user,
      if t.accepted .login then t.levelOf i else none⟩]
  | _, _, _, _ => []

/-- The history behind a request. -/
def request (h : History) (s : State) (i : Nat) (r : Request) (t : State) : History :=
  let h' := if t.accepted .useradd ∨ t.accepted .userupdate then h.change r else h
  { h' with
    loggedIn :=
      if t.accepted .login then Function.update h.loggedIn i (t.levelOf i)
      else if t.accepted .logout then Function.update h.loggedIn i none
      else h.loggedIn
    attempts := h.attempts ++ h.attempt s i r t
    executed := h.executed ++ t.executed.toList.map fun command => (command, h.loggedIn i) }

def after (h : History) (s : State) (e : Event) (t : State) : History :=
  match e with
  | .open i | .close i => { h with loggedIn := Function.update h.loggedIn i none }
  | .request i r => h.request s i r t

structure Agrees (h : History) : Prop where
  logins : ∀ a ∈ h.attempts, a.Agrees
  gate : ∀ x ∈ h.executed, Allowed x.1 x.2

end History

/-- The sessions, with their history. -/
def accounts {db : Server} (installation : Installation db) : Machine (State × History) Event :=
  (sessions installation).withGhost (History.start installation.accounts) History.after

/-- A login with the password last set for the name finds its digest in the row of the name, and the level last set; the
name and the password are not empty. -/
def Sound (db : Server) (s : State × History) : Event → Prop
  | .request i r => r.command = .login → s.2.loggedIn i = none →
    ∀ u p, r.arg "user" = some u → r.arg "password" = some p → s.2.password u = some p →
      ∀ row ∈ s.1.users, row.username = u →
        u ≠ [] ∧ p ≠ [] ∧ row.password = db.SHA2 p ∧ s.2.level u = some row.accessLevel
  | _ => True

/-- The passwords of the installation and of the logins. -/
def passwords {db : Server} (installation : Installation db) (es : List Event) : List Str :=
  installation.accounts.map Account.password ++ es.filterMap fun e =>
    match e with
    | .request _ r => r.arg "password"
    | _ => none

end V2xHub.CommandPlugin
