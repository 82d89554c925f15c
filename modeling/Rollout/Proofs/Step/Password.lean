import Rollout.Proofs.Sql.Masking
import Rollout.Step.Script

/-!
# Passwords in masked statements

Which masked statements show nothing of a password. Those of a distributor never do. The statement
that makes a login shows nothing of its password exactly if what stands in front of the password,
the name of the login that is, leaves no string open that it seems to assign to a password; a name
without an equals sign leaves none open. Behind an open string the password is shown as it is.
-/

namespace Rollout.Step

open Rollout.Sql

/-- An `H` stands in no assignment to a password. -/
theorem stops_H : Stops 'H' :=
  ⟨not_foldsTo rfl, rfl, by decide, by decide, by decide, by decide⟩

/-- An at sign stands in no assignment to a password. -/
theorem stops_at : Stops '@' :=
  ⟨not_foldsTo rfl, rfl, by decide, by decide, by decide, by decide⟩

namespace Login

/-- The login with a password. -/
def withPassword (s : Login) (password : String) : Login :=
  { s with password := some password }

/-- What stands in front of the password in the statement that makes a login. -/
def front (s : Login) : String :=
  "IF NOT EXISTS (SELECT 1 FROM sys.server_principals WHERE name = " ++ literal s.name ++
    ")\n    CREATE LOGIN " ++ ident s.name ++ " WITH"

/-- What stands behind the password in the statement that makes a login. -/
def back (s : Login) : String :=
  match s.defaultDatabase with
  | none => ""
  | some db => ", DEFAULT_DATABASE = " ++ ident db

variable (s : Login) (password : String)

/-- The clauses of a login with a password. -/
theorem intercalate_withClauses :
    ", ".intercalate (s.withPassword password).withClauses =
      "PASSWORD = " ++ literal password ++ s.back := by
  have hcomma (x : String) :
      ", " ++ ("DEFAULT_DATABASE = " ++ x) = ", DEFAULT_DATABASE = " ++ x := by
    rw [← String.append_assoc]
    rfl
  unfold withClauses withPassword back
  cases s.defaultDatabase with
  | none => simp
  | some db => simp [hcomma, String.append_assoc]

/-- The statement that makes a login with a password, cut at the password. -/
theorem createScript_withPassword :
    (s.withPassword password).createScript =
      s.front ++ (" PASSWORD = " ++ (literal password ++ s.back)) := by
  have hsome : (s.withPassword password).password.isNone = false := rfl
  have hclauses : (s.withPassword password).withClauses.isEmpty = false := by
    simp [withClauses, withPassword]
  have hcreate (x : String) :
      ")\n    " ++ ("CREATE LOGIN " ++ x) = ")\n    CREATE LOGIN " ++ x := by
    rw [← String.append_assoc]
    rfl
  have hwith (x : String) :
      " WITH " ++ ("PASSWORD = " ++ x) = " WITH" ++ (" PASSWORD = " ++ x) := by
    rw [← String.append_assoc, ← String.append_assoc]
    rfl
  unfold createScript create
  rw [hsome, hclauses, intercalate_withClauses]
  unfold front
  simp only [withPassword, if_neg Bool.false_ne_true, String.append_assoc, String.empty_append,
    hcreate, hwith]

/-- The last character in front of the password. -/
theorem getLast?_front : s.front.toList.getLast? = some 'H' := by
  unfold front
  rw [String.toList_append, List.getLast?_append]
  rfl

/-- No quote stands right behind the quoted password. -/
theorem head?_back : s.back.toList.head? ≠ some '\'' := by
  unfold back
  cases s.defaultDatabase with
  | none => decide
  | some db =>
    have hcomma : ", DEFAULT_DATABASE = ".toList.head? = some ',' := rfl
    rw [String.toList_append, List.head?_append, hcomma]
    simp

/-- The part of the statement from the password on shows nothing of it when it is masked. -/
theorem maskChars_password :
    maskChars (" PASSWORD = ".toList ++ ((literal password).toList ++ s.back.toList)) =
      " PASSWORD = ".toList ++ maskedString ++ maskChars s.back.toList := by
  have hblank (r : List Char) : secret? (' ' :: r) = none := rfl
  have hhead (r : List Char) : assignment? ("PASSWORD = ".toList ++ 'N' :: r) =
      some ("PASSWORD = ".toList, 'N' :: r) := rfl
  calc maskChars (" PASSWORD = ".toList ++ ((literal password).toList ++ s.back.toList))
      = ' ' :: maskChars ("PASSWORD = ".toList ++ (literal password).toList ++ s.back.toList) := by
        rw [List.append_assoc]
        exact maskChars_cons (hblank _)
    _ = ' ' :: ("PASSWORD = ".toList ++ maskedString ++ maskChars s.back.toList) := by
        rw [maskChars_literal hhead password s.head?_back]
    _ = " PASSWORD = ".toList ++ maskedString ++ maskChars s.back.toList := rfl

/-- If nothing is left open in front of the password, it is not shown. -/
theorem mask_createScript (h : leavesOpen s.front.toList = false) :
    mask (s.withPassword password).createScript =
      String.ofList (maskChars s.front.toList ++ (" PASSWORD = ".toList ++ maskedString ++
        maskChars s.back.toList)) := by
  rw [mask, createScript_withPassword, String.toList_append, String.toList_append,
    String.toList_append, maskChars_append stops_H (.inr s.getLast?_front) h, maskChars_password]

/-- If a string is left open in front of the password, it ends at the quote that opens the
password, and a password without quotes is shown as it is. -/
theorem exists_mask_createScript (h : leavesOpen s.front.toList = true) :
    ∃ shown, ∀ c : Char, c ≠ '\'' → (∀ r, secret? (c :: r) = none) →
      mask (s.withPassword (String.singleton c)).createScript =
        String.ofList (shown ++ c :: maskChars ('\'' :: s.back.toList)) := by
  obtain ⟨shown, hshown⟩ := maskChars_append_of_leavesOpen stops_H s.getLast?_front h
  refine ⟨shown, fun c hc hsecret => ?_⟩
  have hclose : undouble '\'' (" PASSWORD = ".toList ++
      ((literal (String.singleton c)).toList ++ s.back.toList)) =
      some (" PASSWORD = N".toList, c :: '\'' :: s.back.toList) := by
    simp [literal, doubled, undouble, hc]
  rw [mask, createScript_withPassword, String.toList_append, String.toList_append,
    String.toList_append, hshown _ _ _ hclose, maskChars_cons (hsecret _)]

/-- The masked statement shows nothing of the password exactly if nothing is left open in front of
it. -/
theorem mask_createScript_eq_iff :
    (∀ p q : String, mask (s.withPassword p).createScript = mask (s.withPassword q).createScript) ↔
      leavesOpen s.front.toList = false := by
  constructor
  · intro h
    by_contra hopen
    obtain ⟨shown, hshown⟩ := s.exists_mask_createScript (by simpa using hopen)
    have hab := h (String.singleton 'a') (String.singleton 'b')
    rw [hshown 'a' (by decide) fun _ => rfl, hshown 'b' (by decide) fun _ => rfl] at hab
    simp at hab
  · intro h p q
    rw [mask_createScript s p h, mask_createScript s q h]

/-- A name without an equals sign leaves nothing open. -/
theorem leavesOpen_front (h : '=' ∉ s.name.toList) : leavesOpen s.front.toList = false := by
  unfold front
  simp only [String.toList_append, List.append_assoc]
  -- the equals sign of the condition is behind no password
  rw [leavesOpen_append (c := ' ') rfl rfl (not_foldsTo rfl) (.inr rfl)]
  apply leavesOpen_eq_false
  simp [literal, ident, h]

end Login

namespace Distributor

/-- The distributor with an administrator's password. -/
def withAdminPassword (s : Distributor) (password : String) : Distributor :=
  { s with adminPassword := some password }

/-- The statements of a distributor, in the order in which they are sent. -/
def scripts (s : Distributor) : List String :=
  [startAgentScript, s.addDistributorScript, s.addDatabaseScript, s.addPublisherScript]

/-- What stands in front of the password in the statement that registers a distributor. -/
def front : String :=
  "DECLARE @server sysname = @@SERVERNAME;\n" ++
    "IF NOT EXISTS (SELECT 1 FROM sys.servers WHERE is_distributor = 1)\n    " ++
    "EXEC sp_adddistributor @distributor = @server, @"

variable (s : Distributor) (password : String)

/-- The statement that registers a distributor with a password, cut at the password. -/
theorem addDistributorScript_withAdminPassword :
    (s.withAdminPassword password).addDistributorScript =
      front ++ ("password = " ++ literal password) := by
  have hpassword (x : String) : "password" ++ (" = " ++ x) = "password = " ++ x := by
    rw [← String.append_assoc]
    rfl
  have hserver (x : String) : "EXEC sp_adddistributor @distributor = @server" ++ (", @" ++ x) =
      "EXEC sp_adddistributor @distributor = @server, @" ++ x := by
    rw [← String.append_assoc]
    rfl
  unfold addDistributorScript withAdminPassword front
  simp only [furtherArgs, Option.map_some, String.append_assoc, String.append_empty, hpassword,
    hserver]

/-- What stands in front of the password assigns nothing to a password. -/
theorem leavesOpen_front : leavesOpen front.toList = false := by
  rw [← List.append_nil front.toList]
  unfold front
  simp only [String.toList_append, List.append_assoc]
  rw [leavesOpen_append (c := '\n') rfl rfl (not_foldsTo rfl) (.inr rfl),
    leavesOpen_append (c := ' ') rfl rfl (not_foldsTo rfl) (.inr rfl),
    leavesOpen_append (c := '@') rfl rfl (not_foldsTo rfl) (.inr rfl)]
  exact leavesOpen_eq_false (by simp)

/-- The statement that registers a distributor shows nothing of the password. -/
theorem mask_addDistributorScript :
    mask (s.withAdminPassword password).addDistributorScript =
      String.ofList (maskChars front.toList ++ ("password = ".toList ++ maskedString)) := by
  have hlast : front.toList.getLast? = some '@' := by
    unfold front
    rw [String.toList_append, List.getLast?_append]
    rfl
  have hhead (r : List Char) : assignment? ("password = ".toList ++ 'N' :: r) =
      some ("password = ".toList, 'N' :: r) := rfl
  have hend : ([] : List Char).head? ≠ some '\'' := by simp
  have hmasked := maskChars_literal hhead password hend
  rw [List.append_nil, maskChars_nil, List.append_nil] at hmasked
  rw [mask, addDistributorScript_withAdminPassword, String.toList_append, String.toList_append,
    maskChars_append stops_at (.inr hlast) leavesOpen_front, hmasked]

end Distributor

/-- What the masked statements of a login and of a distributor show of their passwords. The
statements of a distributor and those that give a login its roles show nothing. The statement that
makes a login shows nothing exactly if no string is left open in front of the password, which is so
for a name without an equals sign. -/
theorem masked_statements (login : Login) (distributor : Distributor) :
    ((∀ p q : String, mask (login.withPassword p).createScript =
        mask (login.withPassword q).createScript) ↔ leavesOpen login.front.toList = false) ∧
      ('=' ∉ login.name.toList → ∀ p q : String, mask (login.withPassword p).createScript =
        mask (login.withPassword q).createScript) ∧
      (∀ p q role : String, mask ((login.withPassword p).roleScript role) =
        mask ((login.withPassword q).roleScript role)) ∧
      ∀ p q : String, (distributor.withAdminPassword p).scripts.map mask =
        (distributor.withAdminPassword q).scripts.map mask := by
  refine ⟨login.mask_createScript_eq_iff, fun h => ?_, fun p q role => rfl, fun p q => ?_⟩
  · exact login.mask_createScript_eq_iff.2 (login.leavesOpen_front h)
  · -- the password is in the statement that registers the distributor, and in no other
    unfold Distributor.scripts
    simp only [List.map_cons, List.map_nil, Distributor.mask_addDistributorScript]
    rfl

/-- The name `password=` leaves a string open, so the masked statement shows the password. -/
theorem mask_createScript_shows_password :
    mask (Login.createScript ⟨"SQL01", "password=", some "hunter2", none, []⟩) =
        "IF NOT EXISTS (SELECT 1 FROM sys.server_principals WHERE name = " ++
          "N'password=N'***'hunter2'" ∧
      mask (Login.createScript ⟨"SQL01", "password=", some "hunter2", none, []⟩) ≠
        mask (Login.createScript ⟨"SQL01", "password=", some "hunter3", none, []⟩) := by
  have hshown : mask (Login.createScript ⟨"SQL01", "password=", some "hunter2", none, []⟩) =
      "IF NOT EXISTS (SELECT 1 FROM sys.server_principals WHERE name = " ++
        "N'password=N'***'hunter2'" := by
    decide +kernel
  have hother : mask (Login.createScript ⟨"SQL01", "password=", some "hunter3", none, []⟩) =
      "IF NOT EXISTS (SELECT 1 FROM sys.server_principals WHERE name = " ++
        "N'password=N'***'hunter3'" := by
    decide +kernel
  refine ⟨hshown, ?_⟩
  rw [hshown, hother]
  simp

end Rollout.Step
