import DatabaseOperator.Cloud.Service
import DatabaseOperator.Gateway.Service

/-!
# Control planes

- `ControlPlane`: what a resource's remote object is managed through, the cloud
  service or a gateway.
- `ControlPlane.perform`: a call carried out there.
-/

namespace DatabaseOperator

/-- What remote objects are managed through. -/
inductive ControlPlane where
  | cloud (service : Cloud.Service)
  | gateway (service : Gateway.Service)
deriving DecidableEq, Repr

namespace ControlPlane

/-- The name of a control plane. -/
def backend : ControlPlane → String
  | cloud _ => Cloud.Service.backend
  | gateway _ => Gateway.Service.backend

/-- A call carried out. -/
def perform (p : ControlPlane) (c : RemoteCall) :
    HttpProgram (Except RemoteError c.Answer) :=
  match p with
  | cloud service => service.perform c
  | gateway service => service.perform c

end ControlPlane

end DatabaseOperator
