import DatabaseOperator.Manifest.Secret
import DatabaseOperator.Pass.Call
import DatabaseOperator.Resource

/-!
# Wallets

Once a database is ready its connection wallet is downloaded and stored in a
Secret. A Secret that has content is left alone.

- `WalletError`: why a wallet was not stored.
- `materializeWallet`: the download and the write.
-/

namespace DatabaseOperator

/-- How a wallet came to be stored: it had been there, or it was written now. -/
inductive WalletOutcome where
  | alreadyPresent
  | written
deriving DecidableEq, Repr

/-- Why a wallet was not stored. -/
inductive WalletError where
  | store (cause : OperatorError)
  | download (cause : RemoteError)
  | empty
  | passwordNotSet
deriving DecidableEq, Repr

/-- The failure in words. -/
def WalletError.message : WalletError → String
  | store cause => "failed to access wallet secret: " ++ cause.message
  | download cause => "failed to download wallet: " ++ cause.message
  | empty => "remote returned an empty wallet"
  | passwordNotSet => "no wallet password secret is configured"

/-- A downloaded wallet written to its Secret. -/
def storeWallet (secretName : String) (bytes : ByteArray) :
    PassProgram (Except WalletError WalletOutcome) := do
  if bytes.size = 0 then return .error .empty
  else
    match ← askStore
      (.writeSecret secretName (Dict.ofList [(walletKey, bytes)])) with
    | .error e => return .error (.store e)
    | .ok _ => return .ok .written

/-- The wallet of a database downloaded under a password and written to its
Secret. -/
def downloadWallet (secretName : String) (password : SecretKeyRef)
    (identity : String) : PassProgram (Except WalletError WalletOutcome) := do
  match ← askStore (.readSecret password.name password.key) with
  | .error e => return .error (.store e)
  | .ok text =>
    match ← askRemote "wallet download timed out"
      (.downloadWallet identity text) with
    | .error e => return .error (.download e)
    | .ok bytes => storeWallet secretName bytes

/-- The wallet of a database brought into its Secret, unless the Secret has
content. -/
def materializeWallet (target : WalletTarget) (identity : String) :
    PassProgram (Except WalletError WalletOutcome) := do
  match ← askStore (.secretHasData target.secretName) with
  | .error e => return .error (.store e)
  | .ok true => return .ok .alreadyPresent
  | .ok false =>
    match target.password with
    | none => return .error .passwordNotSet
    | some password => downloadWallet target.secretName password identity

end DatabaseOperator
