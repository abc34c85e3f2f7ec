import ScfSecurity.Policy.Context

/-!
# Handshakes

`Connect` and `Accept` of the adaptor. They differ only in the role they require; the
result of `SSL_connect` or `SSL_accept` is given by the environment, with the version that the
peers have agreed on. After a successful handshake `SSL_is_init_finished` holds, which is what
`Finished` records.
-/

namespace Scf

/-- How `SSL_connect` or `SSL_accept` ends; a success with what `SSL_get_version` says from then
on, a failure with the code that `SSL_get_error` gives. -/
inductive HandshakeOutcome where
  | success (version : String := tls13VersionStr)
  | failure (errorCode : Int32)
deriving DecidableEq

def handleTransPortError (errorCode : Int32) : Errno :=
  if errorCode = sslErrorWantRead then .sslWantRead
  else if errorCode = sslErrorWantWrite then .sslWantWrite
  else .secureTransport

/-- The common body of `OpenSSLAdaptor::Connect` and `OpenSSLAdaptor::Accept`. -/
def adaptorHandshake (required : SCFRole) (outcome : HandshakeOutcome) (obj : SCFPolicyObj) :
    Errno × SCFPolicyObj :=
  match obj.sslCtx with
  | none => (.nullInput, obj)
  | some ssl =>
    if obj.role ≠ required then (.sslRole, obj)
    else
      let obj := { obj with isSetRole := true }
      match outcome with
      | .failure errorCode => (handleTransPortError errorCode, obj)
      | .success version =>
        (.success, { obj with sslCtx := some { ssl with initFinished := true, version } })

def adaptorConnect : HandshakeOutcome → SCFPolicyObj → Errno × SCFPolicyObj :=
  adaptorHandshake .client

def adaptorAccept : HandshakeOutcome → SCFPolicyObj → Errno × SCFPolicyObj :=
  adaptorHandshake .server

/-- The object has completed a handshake. -/
def Finished (obj : SCFPolicyObj) : Prop := ∃ ssl, obj.sslCtx = some ssl ∧ ssl.initFinished

theorem handleTransPortError_ne_success (errorCode : Int32) :
    handleTransPortError errorCode ≠ .success := by
  unfold handleTransPortError
  split_ifs <;> decide

/-- Only a completed handshake is reported as a success. -/
theorem finished_of_adaptorHandshake {required : SCFRole} {outcome : HandshakeOutcome}
    {obj : SCFPolicyObj} (h : (adaptorHandshake required outcome obj).1 = .success) :
    Finished (adaptorHandshake required outcome obj).2 := by
  unfold adaptorHandshake at h ⊢
  cases hssl : obj.sslCtx with
  | none => simp [hssl] at h
  | some ssl =>
    by_cases hrole : obj.role = required
    · cases outcome with
      | failure errorCode =>
        simp [hssl, hrole, handleTransPortError_ne_success] at h
      | success version =>
        refine ⟨{ ssl with initFinished := true, version }, ?_, rfl⟩
        simp [hrole]
    · simp [hssl, hrole] at h

/-- A handshake call never undoes a completed handshake. -/
theorem Finished.adaptorHandshake {required : SCFRole} {outcome : HandshakeOutcome}
    {obj : SCFPolicyObj} (h : Finished obj) :
    Finished (adaptorHandshake required outcome obj).2 := by
  obtain ⟨ssl, hssl, hfin⟩ := h
  unfold Scf.adaptorHandshake
  simp only [hssl]
  by_cases hrole : obj.role = required
  · cases outcome with
    | failure errorCode => exact ⟨ssl, by simp [hrole], hfin⟩
    | success version =>
      exact ⟨{ ssl with initFinished := true, version }, by simp [hrole], rfl⟩
  · exact ⟨ssl, by simp [hrole, hssl], hfin⟩

end Scf
