import QueryGateway.Proofs.EscapedText
import QueryGateway.Source.Connection
import QueryGateway.Source.Reader

/-!
# Sources with masked passwords

What a source shows of itself is the same once its password is masked.  Only
the address that its driver connects to tells the password, and it does so
whenever there is a user to log in.
-/

namespace QueryGateway

open Sql

namespace Address

/-- An address without its password. -/
def withoutPassword (address : Address) : Address :=
  { address with password := none }

/-- What stands behind the login in the text of an address. -/
def placeText (address : Address) : String :=
  address.hostText ++ ((address.port.map fun port => ":" ++ Numeral.ofInt port).getD "")
    ++ "/" ++ encodeDatabase address.database ++ address.queryText

theorem text_eq
    (address : Address)
    (hidePassword : Bool) :
    address.text hidePassword =
      address.driver ++ "://" ++ (address.loginText hidePassword ++ address.placeText) := by
  simp only [text, placeText, String.append_assoc]

section

variable
  {address other : Address}
  (same : address.withoutPassword = other.withoutPassword)
  (protects : address.password.isSome = other.password.isSome)

include same protects

/-- The text that hides the password tells only whether there is one. -/
theorem text_hidden_of_same :
    address.text true = other.text true := by
  obtain ⟨driver, username, password, host, port, database, query⟩ := address
  obtain ⟨_, _, otherPassword, _, _, _, _⟩ := other
  cases same
  have sameLogin :
      loginText ⟨driver, username, password, host, port, database, query⟩ true =
        loginText ⟨driver, username, otherPassword, host, port, database, query⟩ true := by
    cases password <;> cases otherPassword <;> first | rfl | simp at protects
  rw [text_eq, text_eq, sameLogin]
  rfl

/-- The text that shows the password tells it, unless nobody logs in. -/
theorem text_shown_eq_iff :
    address.text false = other.text false ↔
      address.username = none ∨ address.password = other.password := by
  obtain ⟨driver, username, password, host, port, database, query⟩ := address
  obtain ⟨_, _, otherPassword, _, _, _, _⟩ := other
  cases same
  have samePlace :
      placeText ⟨driver, username, password, host, port, database, query⟩ =
        placeText ⟨driver, username, otherPassword, host, port, database, query⟩ := rfl
  rw [text_eq, text_eq, samePlace, String.append_right_inj, String.append_left_inj]
  cases username with
  | none =>
      simp [loginText]
  | some name =>
      cases password with
      | none =>
          cases otherPassword with
          | none =>
              simp
          | some shown =>
              simp at protects
      | some password =>
          cases otherPassword with
          | none =>
              simp at protects
          | some shown =>
              simp [loginText, String.append_right_inj, String.append_left_inj,
                encodeLogin_injective.eq_iff]

end

end Address

namespace DataSource

/-- A source with its password masked. -/
def masked (source : DataSource) : DataSource :=
  { source with password := source.maskedPassword }

@[simp]
theorem maskedPassword_masked
    (source : DataSource) :
    source.masked.maskedPassword = source.maskedPassword := by
  rw [maskedPassword, masked, maskedPassword, Option.map_map]
  congr 1
  funext password
  by_cases empty : password = "" <;> simp [empty]

@[simp]
theorem masked_masked
    (source : DataSource) :
    source.masked.masked = source.masked := by
  rw [masked, maskedPassword_masked]
  rfl

/-- Sources are the same once masked if they differ in the text of a password that is not empty, or
not at all. -/
theorem masked_eq_iff
    {source other : DataSource} :
    source.masked = other.masked ↔
      source = other ∨
        ∃ password shown,
          password ≠ "" ∧ shown ≠ "" ∧
            source = { other with password := some password } ∧
            other.password = some shown := by
  obtain ⟨id, engine, host, port, database, username, password, schema, options⟩ := source
  obtain ⟨_, _, _, _, _, _, shown, _, _⟩ := other
  simp only [masked, maskedPassword, mk.injEq]
  cases password with
  | none =>
      cases shown <;> simp
  | some password =>
      cases shown with
      | none =>
          simp
      | some shown =>
          by_cases empty : password = "" <;> by_cases shownEmpty : shown = "" <;>
            simp +contextual [empty, shownEmpty]

/-- What is shown of a source. -/
theorem shown_masked
    (source : DataSource) :
    source.masked.describe? = source.describe? ∧
      source.masked.dump = source.dump ∧
      source.masked.maskedPassword = source.maskedPassword := by
  refine ⟨rfl, ?_, source.maskedPassword_masked⟩
  rw [dump, maskedPassword_masked]
  rfl

section

variable
  (driver : String)
  (defaultPort : Option Int)

/-- Masking changes an address only in its password, and keeps whether it has one. -/
theorem address_masked
    (source : DataSource) :
    (source.masked.address driver defaultPort).withoutPassword =
        (source.address driver defaultPort).withoutPassword ∧
      (source.masked.address driver defaultPort).password.isSome =
        (source.address driver defaultPort).password.isSome := by
  refine ⟨rfl, ?_⟩
  cases stored : source.password with
  | none =>
      simp [address, masked, maskedPassword, stored]
  | some password =>
      by_cases empty : password = ""
      · simp [address, masked, maskedPassword, stored, empty]
      · have filled : password.isEmpty = false := by simpa using empty
        simp only [address, masked, maskedPassword, stored, Option.map_some, filled]
        rw [Option.filter_some_pos rfl, Option.filter_some_pos (by rw [filled]; rfl)]
        rfl

variable
  {first second : DataSource}
  (same : first.masked = second.masked)

include same

/-- Addresses of sources that are the same once masked differ in their passwords at most. -/
theorem address_of_same :
    (first.address driver defaultPort).withoutPassword =
        (second.address driver defaultPort).withoutPassword ∧
      (first.address driver defaultPort).password.isSome =
        (second.address driver defaultPort).password.isSome := by
  have firstMasked := first.address_masked driver defaultPort
  have secondMasked := second.address_masked driver defaultPort
  rw [same] at firstMasked
  exact ⟨firstMasked.1.symm.trans secondMasked.1,
    firstMasked.2.symm.trans secondMasked.2⟩

/-- Sources that are the same once masked have the same password if they use the same one. -/
theorem password_eq_iff_of_same :
    (first.address driver defaultPort).password =
        (second.address driver defaultPort).password ↔
      first.password = second.password := by
  have samePassword : first.maskedPassword = second.maskedPassword := by
    rw [← maskedPassword_masked, same, maskedPassword_masked]
  refine ⟨fun sameUsed => ?_, fun given => by simp only [address, given]⟩
  simp only [address] at sameUsed
  simp only [maskedPassword] at samePassword
  generalize first.password = password at samePassword sameUsed ⊢
  generalize second.password = other at samePassword sameUsed ⊢
  cases password with
  | none =>
      cases other with
      | none =>
          rfl
      | some other =>
          cases samePassword
  | some password =>
      cases other with
      | none =>
          cases samePassword
      | some other =>
          -- A password that is not used is empty, and only its mask is known to be the same.
          by_cases empty : password = ""
          · by_cases otherEmpty : other = ""
            · rw [empty, otherEmpty]
            · simp [empty, otherEmpty] at samePassword
          · by_cases otherEmpty : other = ""
            · simp [empty, otherEmpty] at samePassword
            · have filled : password.isEmpty = false := by simpa using empty
              have otherFilled : other.isEmpty = false := by simpa using otherEmpty
              rwa [Option.filter_some_pos (by rw [filled]; rfl),
                Option.filter_some_pos (by rw [otherFilled]; rfl)] at sameUsed

/-- The address that hides the password is the same. -/
theorem hiddenText_of_same :
    (first.address driver defaultPort).text? true =
      (second.address driver defaultPort).text? true := by
  obtain ⟨withoutPassword, protects⟩ := address_of_same driver defaultPort same
  have samePort :
      (first.address driver defaultPort).port =
        (second.address driver defaultPort).port := by
    simpa only [Address.withoutPassword] using congrArg Address.port withoutPassword
  rw [Address.text?, Address.text?, samePort,
    Address.text_hidden_of_same withoutPassword protects]

/-- The address that shows the password is another one if the passwords differ and there is
somebody to log in. -/
theorem shownText_eq_iff_of_same :
    (first.address driver defaultPort).text false =
        (second.address driver defaultPort).text false ↔
      first.username = none ∨ first.password = second.password := by
  obtain ⟨withoutPassword, protects⟩ := address_of_same driver defaultPort same
  rw [Address.text_shown_eq_iff withoutPassword protects,
    password_eq_iff_of_same driver defaultPort same]
  rfl

/-- Pools are set up alike but for their addresses. -/
theorem poolSetup_of_same
    (dialect : Dialect)
    (bounds : PoolSettings) :
    { first.poolSetup dialect bounds with
        address := (second.poolSetup dialect bounds).address } =
      second.poolSetup dialect bounds := by
  have setUp
      (source : DataSource)
      (address : Address) :
      { source.masked.poolSetup dialect bounds with address := address } =
        { source.poolSetup dialect bounds with address := address } := by
    cases dialect <;> rfl
  rw [← setUp first, same, setUp second]

end

end DataSource

end QueryGateway
