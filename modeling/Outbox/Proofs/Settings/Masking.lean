import Outbox.Settings.Basic
import Mathlib.Data.List.DropRight

/-!
# What a masked database address tells

The address of the database is shown in the log with the password left out. Here the address is
that of a `DatabaseLogin`, and the password is any that may stand in it: it has neither an at
sign nor a slash, but it may have colons.

The mask begins behind the last colon in front of the at sign. That is the colon in front of the
password, unless there are colons in the password itself: then the last of them, and all of the
password up to it is shown. So two addresses with different passwords look the same exactly if
the passwords agree up to their last colons.
-/

namespace Outbox

/-! ### The cut -/

namespace Settings

/-- What is in front of the first at sign is kept up to its last colon, if there is one. -/
theorem maskPassword_append {front : List Char} (rest : List Char) (hat : '@' ∉ front)
    (hcolon : front.rdropWhile (· ≠ ':') ≠ []) :
    maskPassword (front ++ '@' :: rest) =
      front.rdropWhile (· ≠ ':') ++ "***".toList ++ '@' :: rest := by
  have hfront : ∀ c ∈ front, decide (c ≠ '@') = true := fun c hc =>
    decide_eq_true fun h => hat (h ▸ hc)
  have hbefore : (front ++ '@' :: rest).takeWhile (· ≠ '@') = front := by
    rw [List.takeWhile_append_of_pos hfront]
    simp
  have hafter : (front ++ '@' :: rest).dropWhile (· ≠ '@') = '@' :: rest := by
    rw [List.dropWhile_append_of_pos hfront]
    simp
  have hkept : front.reverse.dropWhile (· ≠ ':') ≠ [] := fun h =>
    hcolon (by rw [List.rdropWhile, h, List.reverse_nil])
  rw [maskPassword, hbefore, hafter, if_neg (by simpa using hkept)]
  rfl

/-- Behind a colon, a text is kept up to its own last colon. -/
theorem rdropWhile_colon (front text : List Char) :
    (front ++ ':' :: text).rdropWhile (· ≠ ':') =
      front ++ ':' :: text.rdropWhile (· ≠ ':') := by
  rw [List.rdropWhile, List.rdropWhile, List.reverse_append, List.reverse_cons,
    List.append_assoc, List.dropWhile_append]
  cases h : text.reverse.dropWhile (· ≠ ':') with
  | nil => simp
  | cons c cs => simp

end Settings

/-! ### Logins -/

/-- The text has none of the marks that part an address. -/
def IsPlain (text : String) : Prop := ∀ c ∈ text.toList, c ≠ ':' ∧ c ≠ '@' ∧ c ≠ '/'

instance (text : String) : Decidable (IsPlain text) := List.decidableBAll _ _

/-- Where and as whom a database is entered. -/
structure DatabaseLogin where
  /-- The scheme of the address. -/
  scheme : String
  /-- The name of the user. -/
  user : String
  /-- The address of the database behind the at sign. -/
  rest : String
  scheme_plain : IsPlain scheme
  user_plain : IsPlain user
  /-- There is one at sign only. -/
  rest_plain : '@' ∉ rest.toList

/-- The text can stand in an address as the password: neither the login nor what is in front of
the path ends in it. -/
def IsPassword (password : String) : Prop := ∀ c ∈ password.toList, c ≠ '@' ∧ c ≠ '/'

instance (password : String) : Decidable (IsPassword password) := List.decidableBAll _ _

/-- What masking leaves of a password: all of it up to its last colon. -/
def shownOfPassword (password : String) : String :=
  String.ofList (password.toList.rdropWhile (· ≠ ':'))

theorem shownOfPassword_eq_empty_iff {password : String} :
    shownOfPassword password = "" ↔ ':' ∉ password.toList := by
  rw [shownOfPassword, ← String.ofList_nil, String.ofList_inj, List.rdropWhile_eq_nil_iff]
  simp only [decide_eq_true_eq]
  exact ⟨fun h hc => h ':' hc rfl, fun h c hc heq => h (heq ▸ hc)⟩

namespace DatabaseLogin

/-- The address with a password, or with what is shown in its place. -/
def address (d : DatabaseLogin) (password : String) : String :=
  d.scheme ++ "://" ++ d.user ++ ":" ++ password ++ "@" ++ d.rest

@[simp] theorem address_inj {d : DatabaseLogin} {p q : String} :
    d.address p = d.address q ↔ p = q := by
  simp [address]

/-- Masking shows the password up to its last colon and three stars. -/
theorem maskPassword_address {d : DatabaseLogin} {password : String} (h : IsPassword password) :
    Settings.maskPassword (d.address password).toList =
      (d.address (shownOfPassword password ++ "***")).toList := by
  have haddress : ∀ p : String, (d.address p).toList =
      (d.scheme.toList ++ "://".toList ++ d.user.toList ++ ':' :: p.toList) ++
        '@' :: d.rest.toList := by
    intro p
    simp [address]
  have hscheme : '@' ∉ d.scheme.toList := fun hc => (d.scheme_plain _ hc).2.1 rfl
  have huser : '@' ∉ d.user.toList := fun hc => (d.user_plain _ hc).2.1 rfl
  have hpassword : '@' ∉ password.toList := fun hc => (h _ hc).1 rfl
  rw [haddress, Settings.maskPassword_append, Settings.rdropWhile_colon, haddress]
  · simp [shownOfPassword]
  · simp [hscheme, huser, hpassword]
  · rw [Settings.rdropWhile_colon]
    simp

/-- The mask covers the password of a login exactly if there is no colon in it. In any case it
covers what stands behind the last colon of the password and nothing else, so two passwords of
one login are told apart exactly if they differ before that. -/
theorem maskedDatabaseUrl_eq_iff {d : DatabaseLogin} {p q : String} (hp : IsPassword p)
    (hq : IsPassword q) {s t : Settings} (hs : s.databaseUrl = d.address p)
    (ht : t.databaseUrl = d.address q) :
    (s.maskedDatabaseUrl = d.address "***" ↔ ':' ∉ p.toList) ∧
      s.maskedDatabaseUrl = d.address (shownOfPassword p ++ "***") ∧
      (s.maskedDatabaseUrl = t.maskedDatabaseUrl ↔ shownOfPassword p = shownOfPassword q) := by
  have hmask : ∀ {r : String} {u : Settings}, IsPassword r → u.databaseUrl = d.address r →
      u.maskedDatabaseUrl = d.address (shownOfPassword r ++ "***") := by
    intro r u hr hu
    rw [Settings.maskedDatabaseUrl, hu, maskPassword_address hr, String.ofList_toList]
  rw [hmask hp hs, hmask hq ht]
  refine ⟨?_, rfl, ?_⟩
  · rw [address_inj, ← shownOfPassword_eq_empty_iff]
    simp
  · rw [address_inj]
    simp

/-- The login of a department. -/
def department : DatabaseLogin where
  scheme := "postgresql"
  user := "hr"
  rest := "db.example.com:5432/staffsync"
  scheme_plain := by decide
  user_plain := by decide
  rest_plain := by decide

/-- The department enters with a password. -/
def departmentSettings (password : String) : Settings :=
  { databaseUrl := department.address password }

/-- Of the passwords `secret123:4` and `secret123:5` all but the last character is shown. -/
theorem maskedDatabaseUrl_eq_iff_colon :
    IsPassword "secret123:4" ∧ IsPassword "secret123:5" ∧
      (departmentSettings "secret123:4").maskedDatabaseUrl =
        "postgresql://hr:secret123:***@db.example.com:5432/staffsync" ∧
      (departmentSettings "secret123:4").maskedDatabaseUrl ≠ department.address "***" ∧
      (departmentSettings "secret123:4").maskedDatabaseUrl =
        (departmentSettings "secret123:5").maskedDatabaseUrl := by
  have hp : IsPassword "secret123:4" := by decide
  have hq : IsPassword "secret123:5" := by decide
  obtain ⟨hcovered, hshown, hsame⟩ := maskedDatabaseUrl_eq_iff hp hq
    (s := departmentSettings "secret123:4") (t := departmentSettings "secret123:5") rfl rfl
  exact ⟨hp, hq, hshown.trans (by decide), fun h => hcovered.1 h (by decide),
    hsame.2 (by decide)⟩

end DatabaseLogin

end Outbox
